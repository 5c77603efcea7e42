namespace Playground

inductive RunState where
  | idle
  | running
  | complete
deriving Repr, DecidableEq

def RunState.name : RunState → String
  | .idle => "idle"
  | .running => "running"
  | .complete => "complete"

/-- A run button: its state, the number of runs that have not ended, and all states entered so far. -/
structure Control where
  state : RunState := .idle
  pending : Nat := 0
  history : List RunState := [.idle]
deriving Repr, DecidableEq

namespace Control

def enter (state : RunState) (c : Control) : Control :=
  { c with state, history := c.history ++ [state] }

def start (c : Control) : Control :=
  let c := { c with pending := c.pending + 1 }
  if c.state = .running then c else c.enter .running

/-- A run ends, however it does. The button is idle again once no run is left. -/
def release (c : Control) : Control :=
  let c := { c with pending := c.pending - 1 }
  if c.pending = 0 then c.enter .idle
  else if c.state = .running then c
  else c.enter .running

def complete (c : Control) : Control := (c.enter .complete).release

end Control

end Playground
