import Playground.Output.Simulation
import Playground.Pseudocode.Basic

namespace Playground

/-- Everything that running a program text gives. -/
structure Run where
  source : Text
  program : Pseudocode.Program
  records : List Record
deriving Repr, DecidableEq

def Run.ofSource (indentUnit source : Text) : Run :=
  { source
    program := .ofSource indentUnit source
    records := Simulation.output source }

end Playground
