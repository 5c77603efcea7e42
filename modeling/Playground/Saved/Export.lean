import Playground.Json.Writer
import Playground.Saved.Basic

namespace Playground.Saved

def entries (pairs : List (String × Value)) : Value := .map (pairs.map fun p => (.str p.1.toList, p.2))

def Record.toValue (r : Record) : Value :=
  entries [("style", .str r.style.name.toList), ("text", r.text)]

def Line.toValue (l : Line) : Value :=
  entries [("category", .str l.category.name.toList), ("depth", .int l.depth), ("text", l.text)]

/-- The value that describes saved pseudocode. Its display text is part of it. -/
def Program.toValue (p : Program) : Except Fault Value := do
  return entries [("lines", .list (p.lines.map Line.toValue)), ("final_depth", p.finalDepth),
    ("text", .str (← p.text))]

def Run.toValue (r : Run) : Except Fault Value := do
  return entries [("source", r.source), ("transpiled", ← r.program.toValue),
    ("simulation", entries [("records", .list (r.records.map Record.toValue))])]

def Run.toJson (r : Run) : Except Fault Text := do Json.render (← r.toValue)

end Playground.Saved
