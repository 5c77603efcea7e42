import Playground.Output.Panel
import Playground.Output.Terminal
import Playground.Saved.Basic

namespace Playground.Saved

namespace Record

/-- The element of a saved record in the output panel. The text of a notice is looked up, so it must be a key; and
every text is written out, so no integer in it may be too long for that. -/
def panel (r : Record) : Except Fault Text :=
  let idle := match r.text with
    | .str t => Panel.idleTexts.contains t
    | _ => false
  if r.style == .sentinel && !r.text.isKey then .error (.unhashable r.text.kind)
  else if !r.text.isDisplayable then .error .tooLongToWrite
  else .ok (Panel.wrap r.style idle r.text.inText)

/-- The text of a saved record with its references replaced. A container is left alone as long as no
ampersand is one of its items. -/
def unescaped (r : Record) : Except Fault Value :=
  let ampersand (v : Value) := v.same (.str ['&'])
  match r.text with
  | .str t => do return .str (← Markup.unescape t)
  | .list vs => if vs.any ampersand then .error (.notText .list) else .ok r.text
  | .map entries => if entries.any fun e => ampersand e.1 then .error (.notText .map) else .ok r.text
  | v => .error (.notSearchable v.kind)

/-- The terminal line of a saved record; without a decoration the text stays the value it is. -/
def terminal (r : Record) : Except Fault Value := do
  let v ← r.unescaped
  match r.style with
  | .plain | .error => .ok v
  | style => if v.isDisplayable then .ok (.str (Terminal.decorate style v.inText)) else .error .tooLongToWrite

end Record

def panel (rs : List Record) : Except Fault Text := do return (← rs.mapM Record.panel).flatten

def terminal (rs : List Record) : Except Fault Text := do
  joinTexts ['\n'] 0 (← rs.mapM Record.terminal)

end Playground.Saved
