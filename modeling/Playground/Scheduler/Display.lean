import Playground.Output.Record

namespace Playground

/-- What is shown: records and their markup, the pseudocode of the run, the run that wrote it, or zero if none
did, and the number of writes so far. -/
structure Display where
  records : List Record := []
  markup : Text := []
  pseudocode : Text := []
  generation : Nat := 0
  writes : Nat := 0
deriving Repr, DecidableEq

def Display.write (records : List Record) (markup pseudocode : Text) (generation : Nat) (d : Display) :
    Display :=
  ⟨records, markup, pseudocode, generation, d.writes + 1⟩

end Playground
