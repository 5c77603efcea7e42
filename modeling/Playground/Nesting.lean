import Playground.Statement.Category

namespace Playground.Nesting

/-- The depth at which a line stands, given the depth before it: ends and else branches step out first. -/
def enter (c : Category) (depth : Nat) : Nat :=
  match c with
  | .blockEnd | .elseBranch => depth - 1
  | _ => depth

/-- The depth after a line that stands at the given depth: openers and else branches step in. -/
def leave (c : Category) (depth : Nat) : Nat :=
  match c with
  | .conditionalOpen | .loopOpen | .elseBranch => depth + 1
  | _ => depth

def step (depth : Nat) (c : Category) : Nat := leave c (enter c depth)

def after (depth : Nat) (cs : List Category) : Nat := cs.foldl step depth

/-- For each line the depth at which it stands and the depth after it. -/
def trace (depth : Nat) : List Category → List (Nat × Nat)
  | [] => []
  | c :: rest => (enter c depth, step depth c) :: trace (step depth c) rest

end Playground.Nesting
