import Playground.Text.Basic

namespace Playground.Markup

/-- A character as markup shows it: the five that mean something there are written as references. -/
def escapeChar (c : Char) : Text :=
  match c with
  | '&' => "&amp;".toList
  | '<' => "&lt;".toList
  | '>' => "&gt;".toList
  | '"' => "&quot;".toList
  | '\'' => "&#x27;".toList
  | c => [c]

def escape (t : Text) : Text := t.flatMap escapeChar

end Playground.Markup
