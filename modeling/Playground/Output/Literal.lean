import Playground.Text.Basic

namespace Playground.Literal

def isQuote (c : Char) : Bool := c == '\'' || c == '"'

/-- The content of a literal after its opening quote. The backslash of a protected character is dropped; a
literal that is never closed has no content. -/
def content? (quote : Char) : Text → Option Text
  | [] => none
  | '\\' :: c :: rest => (content? quote rest).map (c :: ·)
  | c :: rest => if c == quote then some [] else (content? quote rest).map (c :: ·)

/-- The content of the first literal of an expression. -/
def first? (expr : Text) : Option Text :=
  match expr.dropWhile (!isQuote ·) with
  | [] => none
  | quote :: rest => content? quote rest

end Playground.Literal
