import Playground.Proofs.Settings.Delay
import Playground.Proofs.Settings.Keys
import Playground.Proofs.Text.Flush

namespace Playground.Settings

theorem readIndentUnit_eq_ok_iff {v : Value} {t : Text} :
    readIndentUnit v = .ok t ↔ v = .str t ∧ t ≠ [] ∧ t.allBlank = true := by
  cases v with
  | str u =>
    rw [readIndentUnit]
    split
    · next refused =>
      rw [Bool.or_eq_true, List.isEmpty_iff, Bool.not_eq_true'] at refused
      refine iff_of_false (by simp) ?_
      rintro ⟨⟨rfl⟩, some, blank⟩
      exact refused.elim some fun notBlank => Bool.eq_false_iff.mp notBlank blank
    · next taken =>
      rw [Bool.or_eq_true, List.isEmpty_iff, Bool.not_eq_true', not_or, Bool.not_eq_false] at taken
      constructor
      · intro same
        obtain rfl := Except.ok.inj same
        exact ⟨rfl, taken⟩
      · rintro ⟨⟨rfl⟩, _⟩
        rfl
  | _ => simp [readIndentUnit]

/-- An example does not end with a line feed. -/
theorem getLast?_of_readExample? {v : Value} {e : Text} (read : readExample? v = some e) : e.getLast? ≠ some '\n' := by
  cases v with
  | str t =>
    obtain rfl := Option.some.inj read
    intro ends
    obtain ⟨front, same⟩ := List.getLast?_eq_some_iff.mp ends
    exact Text.dropEndWhile_ne_concat t front rfl same
  | _ => contradiction

theorem getLast?_of_mem_readExamples {v : Value} {examples : { examples : List Text // examples ≠ [] }}
    (read : readExamples v = .ok examples) : ∀ e ∈ examples.1, e.getLast? ≠ some '\n' := by
  cases v with
  | list vs =>
    rw [readExamples] at read
    split at read
    · next e rest each =>
      obtain rfl := Except.ok.inj read
      intro e member
      have results := mapM_eq_some_iff.mp each
      obtain ⟨v, _, readThere⟩ := List.mem_map.mp (results ▸ List.mem_map_of_mem member)
      exact getLast?_of_readExample? readThere
    · contradiction
  | _ => contradiction

/-- Whether the entries of a value give NaN for the delay. -/
def hasNanDelay : Value → Bool
  | .map entries => (Value.field? Key.runDelay.name.toList entries).any Value.isNaN
  | _ => false

theorem order_of_readIn {entries : List (Value × Value)} {x : Float} (read : Key.readIn .runDelay entries = .ok x) :
    x.isNaN = hasNanDelay (.map entries) ∧ (0 ≤ x ↔ hasNanDelay (.map entries) = false) := by
  rw [hasNanDelay]
  rcases Key.readIn_eq_ok_iff.mp read with ⟨absent, same⟩ | ⟨v, present, readThere⟩
  · obtain rfl : x = standard.runDelay := same
    rw [absent]
    have inOrder : 0 ≤ standard.runDelay := by decide +kernel
    exact ⟨not_isNaN_of_zero_le inOrder, iff_of_true inOrder rfl⟩
  · rw [present]
    exact order_of_readRunDelay readThere

theorem indentation_of_ofEntries {entries : List (Value × Value)} {s : Settings} (taken : ofEntries entries = .ok s) :
    s.indentUnit ≠ [] ∧ s.indentUnit.allBlank = true := by
  obtain ⟨_, reads⟩ := ofEntries_eq_ok_iff.mp taken
  rcases Key.readIn_eq_ok_iff.mp (reads .indentUnit) with ⟨_, same⟩ | ⟨v, _, read⟩
  · have default : s.indentUnit = standard.indentUnit := same
    rw [default]
    decide
  · exact (readIndentUnit_eq_ok_iff.mp read).2

theorem indentation_of_ofValue {v : Value} {s : Settings} (taken : ofValue v = .ok s) :
    s.indentUnit ≠ [] ∧ s.indentUnit.allBlank = true := by
  cases v with
  | map entries => exact indentation_of_ofEntries taken
  | _ => contradiction

/-- Settings that are taken are usable in every part, except that the delay is NaN, which has no place in the order, if
NaN was given for it. -/
theorem usable_unless_nan_delay {v : Value} {s : Settings} (taken : ofValue v = .ok s) :
    s.indentUnit ≠ [] ∧ s.indentUnit.allBlank = true ∧ s.examples ≠ [] ∧
      (∀ e ∈ s.examples, e.getLast? ≠ some '\n') ∧ s.overlapPolicy ∈ OverlapPolicy.all ∧
      s.runDelay.isNaN = hasNanDelay v ∧ (0 ≤ s.runDelay ↔ hasNanDelay v = false) := by
  cases v with
  | map entries =>
    obtain ⟨_, reads⟩ := ofEntries_eq_ok_iff.mp taken
    have indentation := indentation_of_ofEntries taken
    have examples : ∀ e ∈ s.examples, e.getLast? ≠ some '\n' := by
      rcases Key.readIn_eq_ok_iff.mp (reads .examples) with ⟨_, same⟩ | ⟨v, _, read⟩
      · have default : s.examples = standard.examples := congrArg Subtype.val same
        rw [default]
        decide +kernel
      · exact getLast?_of_mem_readExamples read
    have policy : s.overlapPolicy ∈ OverlapPolicy.all := by cases s.overlapPolicy <;> decide
    exact ⟨indentation.1, indentation.2, s.examples_ne_nil, examples, policy, order_of_readIn (reads .runDelay)⟩
  | _ => contradiction

/-- NaN is taken as a delay. -/
theorem usable_unless_nan_delay_given_nan :
    let v := Value.map [(.str "run_delay".toList, .float (0.0 / 0.0)), (.str "indent_unit".toList, .str ['\t'])]
    ∃ s, ofValue v = .ok s ∧ s.indentUnit.allBlank = true ∧ s.runDelay.isNaN = true ∧ ¬ 0 ≤ s.runDelay := by
  intro v
  have taken : ofValue v = .ok { standard with runDelay := 0.0 / 0.0, indentUnit := ['\t'] } := rfl
  obtain ⟨_, blank, _, _, _, nan, order⟩ := usable_unless_nan_delay taken
  have given : hasNanDelay v = true := by decide +kernel
  rw [given] at nan order
  exact ⟨_, taken, blank, nan, fun inOrder => Bool.noConfusion (order.mp inOrder)⟩

end Playground.Settings
