import Playground.Proofs.Value.Entries
import Playground.Proofs.Value.Steps
import Playground.Settings.Basic

namespace Playground.Settings

/-- The keys that settings may have. -/
inductive Key where
  | indentUnit
  | runDelay
  | overlapPolicy
  | examples
deriving Repr, DecidableEq

namespace Key

/-- All keys, in the order in which the values under them are read. -/
def all : List Key := [indentUnit, runDelay, overlapPolicy, examples]

/-- A key as it is written in a mapping. -/
def name : Key → String
  | indentUnit => "indent_unit"
  | runDelay => "run_delay"
  | overlapPolicy => "overlap_policy"
  | examples => "examples"

/-- The keys whose values are read before that under a given one. -/
def earlier (k : Key) : List Key := all.takeWhile (· ≠ k)

/-- What a key decides. -/
def Part : Key → Type
  | indentUnit => Text
  | runDelay => Float
  | overlapPolicy => OverlapPolicy
  | examples => { examples : List Text // examples ≠ [] }

/-- The part of settings that a key decides. -/
def part : (k : Key) → Settings → k.Part
  | indentUnit, s => s.indentUnit
  | runDelay, s => s.runDelay
  | overlapPolicy, s => s.overlapPolicy
  | examples, s => ⟨s.examples, s.examples_ne_nil⟩

/-- Reads the value under a key. -/
def read : (k : Key) → Value → Except Error k.Part
  | indentUnit => readIndentUnit
  | runDelay => readRunDelay
  | overlapPolicy => readOverlapPolicy
  | examples => readExamples

/-- What the entries of a mapping give for a key; where they say nothing, the part of the standard settings. -/
def readIn (k : Key) (entries : List (Value × Value)) : Except Error k.Part :=
  readField entries k.name (k.part standard) k.read

theorem mem_all (k : Key) : k ∈ all := by cases k <;> decide

theorem name_injective {j k : Key} (same : j.name.toList = k.name.toList) : j = k := by
  revert same
  cases j <;> cases k <;> decide

theorem ne_of_mem_earlier {j k : Key} (before : j ∈ k.earlier) : j ≠ k := by
  revert before
  cases j <;> cases k <;> decide

theorem mem_keys_iff {t : Text} : t ∈ keys ↔ ∃ k : Key, t = k.name.toList := by
  have names : keys = all.map fun k => k.name.toList := rfl
  rw [names, List.mem_map]
  constructor
  · rintro ⟨k, _, rfl⟩
    exact ⟨k, rfl⟩
  · rintro ⟨k, rfl⟩
    exact ⟨k, mem_all k, rfl⟩

theorem isKnown_str_iff {t : Text} : isKnown (.str t) = true ↔ ∃ k : Key, t = k.name.toList := by
  rw [isKnown, List.contains_iff_mem, mem_keys_iff]

section
variable {k : Key} {entries : List (Value × Value)}

theorem readIn_eq_ok_iff {a : k.Part} :
    k.readIn entries = .ok a ↔
      (Value.field? k.name.toList entries = none ∧ a = k.part standard) ∨
        ∃ v, Value.field? k.name.toList entries = some v ∧ k.read v = .ok a := by
  rw [readIn, readField]
  cases Value.field? k.name.toList entries <;> simp [eq_comm]

theorem readIn_eq_error_iff {error : Error} :
    k.readIn entries = .error error ↔
      ∃ v, Value.field? k.name.toList entries = some v ∧ k.read v = .error error := by
  rw [readIn, readField]
  cases Value.field? k.name.toList entries <;> simp

end

end Key

variable {entries : List (Value × Value)}

theorem ofEntries_of_known (known : ∀ e ∈ entries, isKnown e.1 = true) :
    ofEntries entries = do
      let indentUnit ← Key.readIn .indentUnit entries
      let runDelay ← Key.readIn .runDelay entries
      let overlapPolicy ← Key.readIn .overlapPolicy entries
      let examples ← Key.readIn .examples entries
      return { indentUnit, runDelay, overlapPolicy, examples := examples.1, examples_ne_nil := examples.2 } := by
  have none : (entries.map (·.1)).filter (!isKnown ·) = [] := by
    rw [List.filter_eq_nil_iff, List.forall_mem_map]
    intro e member
    rw [known e member]
    decide
  rw [ofEntries, none]
  rfl

theorem ofEntries_known_eq_ok_iff (known : ∀ e ∈ entries, isKnown e.1 = true) {s : Settings} :
    ofEntries entries = .ok s ↔ ∀ k : Key, k.readIn entries = .ok (k.part s) := by
  rw [ofEntries_of_known known]
  simp only [bind_eq_ok_iff]
  constructor
  · rintro ⟨indentUnit, indentRead, runDelay, delayRead, overlapPolicy, policyRead, examples, examplesRead, same⟩
    obtain rfl := Except.ok.inj same
    rintro (_ | _ | _ | _)
    · exact indentRead
    · exact delayRead
    · exact policyRead
    · exact examplesRead
  · intro reads
    exact ⟨_, reads .indentUnit, _, reads .runDelay, _, reads .overlapPolicy, _, reads .examples, rfl⟩

theorem ofEntries_known_eq_error_iff (known : ∀ e ∈ entries, isKnown e.1 = true) {error : Error} :
    ofEntries entries = .error error ↔
      ∃ k : Key, k.readIn entries = .error error ∧ ∀ j ∈ k.earlier, ∃ a, j.readIn entries = .ok a := by
  rw [ofEntries_of_known known]
  simp only [bind_eq_error_iff]
  constructor
  · rintro (failed | ⟨a, first, failed | ⟨b, second, failed | ⟨c, third, failed | ⟨_, _, ⟨⟩⟩⟩⟩⟩)
    · exact ⟨.indentUnit, failed, List.forall_mem_nil _⟩
    · exact ⟨.runDelay, failed, List.forall_mem_singleton.mpr ⟨a, first⟩⟩
    · exact ⟨.overlapPolicy, failed,
        List.forall_mem_cons.mpr ⟨⟨a, first⟩, List.forall_mem_singleton.mpr ⟨b, second⟩⟩⟩
    · exact ⟨.examples, failed,
        List.forall_mem_cons.mpr ⟨⟨a, first⟩,
          List.forall_mem_cons.mpr ⟨⟨b, second⟩, List.forall_mem_singleton.mpr ⟨c, third⟩⟩⟩⟩
  · rintro ⟨k, failed, before⟩
    cases k with
    | indentUnit => exact Or.inl failed
    | runDelay =>
      obtain ⟨a, first⟩ := before .indentUnit (by decide)
      exact Or.inr ⟨a, first, Or.inl failed⟩
    | overlapPolicy =>
      obtain ⟨a, first⟩ := before .indentUnit (by decide)
      obtain ⟨b, second⟩ := before .runDelay (by decide)
      exact Or.inr ⟨a, first, Or.inr ⟨b, second, Or.inl failed⟩⟩
    | examples =>
      obtain ⟨a, first⟩ := before .indentUnit (by decide)
      obtain ⟨b, second⟩ := before .runDelay (by decide)
      obtain ⟨c, third⟩ := before .overlapPolicy (by decide)
      exact Or.inr ⟨a, first, Or.inr ⟨b, second, Or.inr ⟨c, third, Or.inl failed⟩⟩⟩

/-- Settings are read from known keys if the value under each of them is taken. -/
theorem exists_ofEntries_known_iff (known : ∀ e ∈ entries, isKnown e.1 = true) :
    (∃ s, ofEntries entries = .ok s) ↔ ∀ k : Key, ∃ a, k.readIn entries = .ok a := by
  constructor
  · rintro ⟨s, read⟩ k
    exact ⟨_, (ofEntries_known_eq_ok_iff known).mp read k⟩
  · intro each
    cases read : ofEntries entries with
    | ok s => exact ⟨s, rfl⟩
    | error e =>
      obtain ⟨k, failed, _⟩ := (ofEntries_known_eq_error_iff known).mp read
      obtain ⟨a, taken⟩ := each k
      rw [taken] at failed
      contradiction

theorem known_of_ofEntries {s : Settings} (read : ofEntries entries = .ok s) :
    ∀ e ∈ entries, isKnown e.1 = true := by
  rw [ofEntries] at read
  split at read
  · next none =>
    rw [List.filter_eq_nil_iff, List.forall_mem_map] at none
    intro e member
    simpa using none e member
  · split at read
    · split at read <;> contradiction
    · contradiction

/-- Settings are read if every key is known and the value under each of them is taken. -/
theorem ofEntries_eq_ok_iff {s : Settings} :
    ofEntries entries = .ok s ↔
      (∀ e ∈ entries, isKnown e.1 = true) ∧ ∀ k : Key, k.readIn entries = .ok (k.part s) := by
  constructor
  · intro read
    have known := known_of_ofEntries read
    exact ⟨known, (ofEntries_known_eq_ok_iff known).mp read⟩
  · rintro ⟨known, reads⟩
    exact (ofEntries_known_eq_ok_iff known).mpr reads

theorem areDisplayable_of_texts {vs : List Value} (texts : ∀ v ∈ vs, ∃ t, v = .str t) :
    Value.areDisplayable vs = true := by
  induction vs with
  | nil => rfl
  | cons v vs ih =>
    obtain ⟨⟨t, rfl⟩, later⟩ := List.forall_mem_cons.mp texts
    rw [Value.areDisplayable, ih later]
    rfl

/-- Unknown keys are reported all together, in order. -/
theorem ofEntries_of_unknown {sorted : List Value} (unknown : ∃ e ∈ entries, isKnown e.1 = false)
    (sorts : Value.sortBy id ((entries.map (·.1)).filter (!isKnown ·)) = .ok sorted)
    (texts : ∀ v ∈ sorted, ∃ t, v = .str t) : ofEntries entries = .error (.unknownKeys sorted) := by
  have some : (entries.map (·.1)).filter (!isKnown ·) ≠ [] := by
    obtain ⟨e, member, isUnknown⟩ := unknown
    refine List.ne_nil_of_mem (List.mem_filter.mpr ⟨List.mem_map.mpr ⟨e, member, rfl⟩, ?_⟩)
    rw [isUnknown]
    rfl
  have displayable : (Value.list sorted).isDisplayable = true := by
    rw [Value.isDisplayable]
    exact areDisplayable_of_texts texts
  rw [ofEntries]
  split
  · contradiction
  · rw [sorts]
    simp only [displayable, if_true]
    rfl

end Playground.Settings
