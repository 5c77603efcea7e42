namespace Playground.Text

/-- Whether a code point lies in one of the ranges, which are ascending and given by both ends. -/
def inRanges : List (Nat × Nat) → Nat → Bool
  | [], _ => false
  | (low, high) :: rest, n => if n < low then false else n ≤ high || inRanges rest n

end Playground.Text
