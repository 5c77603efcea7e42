import Playground.Output.Record

namespace Playground.Panel

/-- The opening and the closing part of the element of a style. Idle notices get an element of their own. -/
def wrapper (style : Style) (idle : Bool) : Text × Text :=
  match style with
  | .glow => ("<div class=\"output-line output-glow\">✨ ".toList, " ✨</div>".toList)
  | .emphasis => ("<div class=\"output-line\"><strong>".toList, "</strong></div>".toList)
  | .error => ("<div class=\"output-line output-error\">".toList, "</div>".toList)
  | .sentinel =>
    if idle then ("<div class=\"output-placeholder\">".toList, "</div>".toList)
    else ("<div class=\"output-line\">".toList, "</div>".toList)
  | .plain => ("<div class=\"output-line\">".toList, "</div>".toList)

/-- The texts of the notices that are shown while nothing runs, as records hold them. -/
def idleTexts : List Text := [Notice.noCode, Notice.cleared].map fun n => (Record.ofNotice n).text

def wrap (style : Style) (idle : Bool) (text : Text) : Text :=
  (wrapper style idle).1 ++ text ++ (wrapper style idle).2

def ofRecord (r : Record) : Text := wrap r.style (idleTexts.contains r.text) r.text

def ofRecords (rs : List Record) : Text := rs.flatMap ofRecord

end Playground.Panel
