import Playground.Run
import Playground.Value.Fault

namespace Playground.Saved

/-- A saved record. Its text is whatever the file says, since only categories, styles and depths are checked when a
saved run is read. -/
structure Record where
  style : Style
  text : Value

structure Line where
  category : Category
  depth : Int
  text : Value

structure Program where
  lines : List Line
  finalDepth : Value

structure Run where
  source : Value
  program : Program
  records : List Record

def Record.ofRecord (r : Playground.Record) : Record := ⟨r.style, .str r.text⟩

/-- The form in which a line is saved; a missing text is null. -/
def Line.ofLine (l : Pseudocode.Line) : Line :=
  ⟨l.category, l.depth, match l.text with | some t => .str t | none => .null⟩

def Program.ofProgram (p : Pseudocode.Program) : Program :=
  ⟨p.lines.map Line.ofLine, .int p.finalDepth⟩

def Run.ofRun (r : Playground.Run) : Run :=
  ⟨.str r.source, .ofProgram r.program, r.records.map Record.ofRecord⟩

/-- Texts joined with a separator; an item that is no text is a fault. Positions count from `position`. -/
def joinTexts (separator : Text) (position : Nat) : List Value → Except Fault Text
  | [] => .ok []
  | [.str t] => .ok t
  | .str t :: rest => do return t ++ separator ++ (← joinTexts separator (position + 1) rest)
  | v :: _ => .error (.notJoinable position v.kind)

def Program.text (p : Program) : Except Fault Text :=
  joinTexts ['\n'] 0 ((p.lines.map (·.text)).filter fun v => v.kind != .null)

def Record.same (a b : Record) : Bool := a.style == b.style && a.text.same b.text

def Line.same (a b : Line) : Bool := a.category == b.category && a.depth == b.depth && a.text.same b.text

def allSame {α : Type} (same : α → α → Bool) : List α → List α → Bool
  | [], [] => true
  | a :: as, b :: bs => same a b && allSame same as bs
  | _, _ => false

def Run.same (a b : Run) : Bool :=
  a.source.same b.source && allSame Line.same a.program.lines b.program.lines &&
    a.program.finalDepth.same b.program.finalDepth && allSame Record.same a.records b.records

end Playground.Saved
