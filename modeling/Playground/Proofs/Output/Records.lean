import Playground.Output.Simulation

namespace Playground.Simulation

variable {s : Statement} {source : Text} {r : Record}

theorem printed?_eq_some_iff :
    printed? s = some r ↔ ∃ style literal, s.category.printStyle? = some style ∧
      Literal.first? s.residual = some literal ∧ Record.ofText style literal = r := by
  simp [printed?, Option.bind_eq_some_iff]

theorem of_mem_printed (member : r ∈ printed source) :
    ∃ raw ∈ source.lines, ∃ style literal, (Statement.ofLine raw).category.printStyle? = some style ∧
      Literal.first? (Statement.ofLine raw).residual = some literal ∧ Record.ofText style literal = r := by
  obtain ⟨s, inProgram, shown⟩ := List.mem_filterMap.mp member
  obtain ⟨raw, isLine, rfl⟩ := List.mem_map.mp inProgram
  exact ⟨raw, isLine, printed?_eq_some_iff.mp shown⟩

theorem of_mem_output (member : r ∈ output source) : (∃ n, r = .ofNotice n) ∨ r ∈ printed source := by
  rw [output] at member
  split at member
  · exact Or.inl ⟨.noCode, List.mem_singleton.mp member⟩
  · split at member
    · exact Or.inl ⟨.noOutput, List.mem_singleton.mp member⟩
    · exact Or.inr member

theorem output_ne_nil (source : Text) : output source ≠ [] := by
  unfold output
  split
  · exact List.cons_ne_nil _ _
  · split
    · exact List.cons_ne_nil _ _
    · assumption

end Playground.Simulation
