import Playground.Pseudocode.Basic

namespace Playground

namespace Nesting

theorem enter_le (c : Category) (depth : Nat) : enter c depth ≤ depth := by
  unfold enter
  split <;> omega

theorem leave_le (c : Category) (depth : Nat) : leave c depth ≤ depth + 1 := by
  unfold leave
  split <;> omega

theorem step_le (depth : Nat) (c : Category) : step depth c ≤ depth + 1 :=
  Nat.le_trans (leave_le c _) (Nat.add_le_add_right (enter_le c depth) 1)

theorem after_le (depth : Nat) (cs : List Category) : after depth cs ≤ depth + cs.length := by
  induction cs generalizing depth with
  | nil => exact Nat.le_refl _
  | cons c cs ih =>
    have rest : after depth (c :: cs) ≤ step depth c + cs.length := ih (step depth c)
    have one := step_le depth c
    rw [List.length_cons]
    omega

/-- Stepping out keeps how much deeper a line stands, except that it takes one off where there is no block left
to close. -/
theorem enter_add (c : Category) (depth excess : Nat) :
    ∃ kept ≤ excess, enter c (depth + excess) = enter c depth + kept := by
  unfold enter
  split
  · by_cases outside : depth = 0
    · exact ⟨excess - 1, by omega, by omega⟩
    · exact ⟨excess, by omega, by omega⟩
  · by_cases outside : depth = 0
    · exact ⟨excess - 1, by omega, by omega⟩
    · exact ⟨excess, by omega, by omega⟩
  · exact ⟨excess, by omega, rfl⟩

theorem leave_add (c : Category) (depth excess : Nat) : leave c (depth + excess) = leave c depth + excess := by
  unfold leave
  split <;> omega

end Nesting

namespace Pseudocode

theorem depth_le_of_mem_linesFrom {indentUnit : Text} {depth : Nat} {statements : List Statement} {l : Line}
    (member : l ∈ linesFrom indentUnit depth statements) : l.depth ≤ depth + statements.length := by
  induction statements generalizing depth with
  | nil => contradiction
  | cons s statements ih =>
    rw [linesFrom, List.mem_cons] at member
    rw [List.length_cons]
    rcases member with rfl | later
    · have here := Nesting.enter_le s.category depth
      exact Nat.le_trans here (Nat.le_add_right depth _)
    · have rest := ih later
      have one := Nesting.step_le depth s.category
      rw [Nesting.step] at one
      omega

theorem Program.depth_le_of_mem_lines {indentUnit source : Text} {l : Line}
    (member : l ∈ (Program.ofSource indentUnit source).lines) : l.depth ≤ source.lines.length := by
  have bound := depth_le_of_mem_linesFrom member
  rwa [Nat.zero_add, Statement.length_ofSource] at bound

theorem Program.finalDepth_le (indentUnit source : Text) :
    (Program.ofSource indentUnit source).finalDepth ≤ source.lines.length := by
  have bound := Nesting.after_le 0 ((Statement.ofSource source).map (·.category))
  rwa [Nat.zero_add, List.length_map, Statement.length_ofSource] at bound

end Pseudocode

end Playground
