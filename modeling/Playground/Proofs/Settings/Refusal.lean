import Playground.CommandLine.Basic
import Playground.Proofs.Settings.Delay
import Playground.Proofs.Settings.Keys

namespace Playground.Settings

/-- The entries of a value give an integer beyond the floats for the delay, and nothing that is checked before it is
wrong. -/
def HasDelayTooLarge (v : Value) : Prop :=
  ∃ (entries : List (Value × Value)) (n : Int), v = .map entries ∧ (∀ e ∈ entries, isKnown e.1 = true) ∧
    (∃ t, Key.readIn .indentUnit entries = .ok t) ∧
    Value.field? Key.runDelay.name.toList entries = some (.int n) ∧ (Decimal.infiniteFrom : Int) ≤ n

variable {fault : Fault}

section
variable {v : Value} {error : Error}

theorem eq_of_error_readIndentUnit (failed : readIndentUnit v = .error error) : error = .badIndentUnit := by
  cases v with
  | str t =>
    rw [readIndentUnit] at failed
    split at failed
    · exact (Except.error.inj failed).symm
    · contradiction
  | _ => exact (Except.error.inj failed).symm

theorem eq_of_error_readRunDelay (failed : readRunDelay v = .error error) :
    error = .badRunDelay ∨ error = .unchecked .integerTooLarge := by
  cases v with
  | int n =>
    rw [readRunDelay_int] at failed
    split at failed
    · exact Or.inl (Except.error.inj failed).symm
    · split at failed
      · exact Or.inr (Except.error.inj failed).symm
      · contradiction
  | float x =>
    rw [readRunDelay] at failed
    split at failed
    · contradiction
    · exact Or.inl (Except.error.inj failed).symm
  | _ => exact Or.inl (Except.error.inj failed).symm

theorem eq_of_error_readOverlapPolicy (failed : readOverlapPolicy v = .error error) : error = .badOverlapPolicy := by
  cases v with
  | str t =>
    rw [readOverlapPolicy] at failed
    split at failed
    · contradiction
    · exact (Except.error.inj failed).symm
  | _ => exact (Except.error.inj failed).symm

theorem eq_of_error_readExamples (failed : readExamples v = .error error) : error = .badExamples := by
  cases v with
  | list vs =>
    rw [readExamples] at failed
    split at failed
    · contradiction
    · exact (Except.error.inj failed).symm
  | _ => exact (Except.error.inj failed).symm

end

/-- What is wrong with the value under a key that is not taken. -/
def Key.complaint : Key → Error
  | indentUnit => .badIndentUnit
  | runDelay => .badRunDelay
  | overlapPolicy => .badOverlapPolicy
  | examples => .badExamples

/-- A value that is not taken is complained about, or it is a delay that cannot be checked. -/
theorem Key.eq_complaint_of_read {k : Key} {v : Value} {error : Error} (failed : k.read v = .error error) :
    error = k.complaint ∨ (k = .runDelay ∧ error = .unchecked .integerTooLarge) := by
  cases k with
  | indentUnit => exact Or.inl (eq_of_error_readIndentUnit failed)
  | runDelay => exact (eq_of_error_readRunDelay failed).imp_right fun same => ⟨rfl, same⟩
  | overlapPolicy => exact Or.inl (eq_of_error_readOverlapPolicy failed)
  | examples => exact Or.inl (eq_of_error_readExamples failed)

theorem Key.eq_runDelay_of_unchecked {k : Key} {v : Value} (failed : k.read v = .error (.unchecked fault)) :
    k = .runDelay := by
  rcases eq_complaint_of_read failed with complaint | ⟨delay, _⟩
  · cases k <;> contradiction
  · exact delay

theorem ofEntries_known_unchecked_iff {entries : List (Value × Value)} (known : ∀ e ∈ entries, isKnown e.1 = true) :
    ofEntries entries = .error (.unchecked fault) ↔ fault = .integerTooLarge ∧ HasDelayTooLarge (.map entries) := by
  rw [ofEntries_known_eq_error_iff known]
  constructor
  · rintro ⟨k, failed, before⟩
    obtain ⟨v, present, failedThere⟩ := Key.readIn_eq_error_iff.mp failed
    obtain rfl := Key.eq_runDelay_of_unchecked failedThere
    obtain ⟨rfl, n, rfl, great⟩ := readRunDelay_unchecked_iff.mp failedThere
    exact ⟨rfl, entries, n, rfl, known, before .indentUnit (by decide), present, great⟩
  · rintro ⟨rfl, _, n, same, _, indentation, present, great⟩
    cases same
    refine ⟨.runDelay, Key.readIn_eq_error_iff.mpr ⟨.int n, present, ?_⟩, List.forall_mem_singleton.mpr indentation⟩
    exact readRunDelay_unchecked_iff.mpr ⟨rfl, n, rfl, great⟩

theorem ofValue_unchecked_iff {v : Value}
    (texts : ∀ entries, v = .map entries → ∀ e ∈ entries, ∃ t, e.1 = .str t) :
    ofValue v = .error (.unchecked fault) ↔ fault = .integerTooLarge ∧ HasDelayTooLarge v := by
  cases v with
  | map entries =>
    by_cases known : ∀ e ∈ entries, isKnown e.1 = true
    · exact ofEntries_known_unchecked_iff known
    · -- Unknown keys are reported before any value is looked at.
      have unknown : ∃ e ∈ entries, isKnown e.1 = false := by simpa using known
      have unknownTexts : ∀ v ∈ (entries.map (·.1)).filter (!isKnown ·), ∃ t, v = .str t := by
        intro v member
        obtain ⟨e, isEntry, rfl⟩ := List.mem_map.mp (List.mem_filter.mp member).1
        exact texts entries rfl e isEntry
      obtain ⟨sorted, sorts, perm⟩ := @Value.sortBy_perm _ id _ unknownTexts
      have reported := ofEntries_of_unknown unknown sorts fun v member => unknownTexts v (perm.mem_iff.mp member)
      rw [ofValue, reported]
      refine iff_of_false (by simp) ?_
      rintro ⟨_, _, _, same, allKnown, _⟩
      cases same
      exact known allKnown
  | _ =>
    refine iff_of_false (by simp [ofValue]) ?_
    rintro ⟨_, _, _, same, _⟩
    contradiction

theorem ofText_of_parse {t : Text} {v : Value} (parsed : Yaml.parse t = .ok v) (some : v ≠ .null) :
    ofText t = ofValue v := by
  rw [ofText, parsed]
  cases v <;> first | rfl | contradiction

section
open CommandLine
variable {a : Arguments} {s : Surroundings} {name t : Text} {bytes : List UInt8}

theorem readSettings_of_decode (found : s.file name = .ok bytes) (decoded : decode bytes = .ok t) :
    s.readSettings (some name) = match ofText t with
      | .ok settings => .ok (.ok settings)
      | .error (.unchecked fault) => .error (.unchecked fault)
      | .error error => .ok (.error error.message) := by
  have read : s.read name = .ok (.ok t) := by
    rw [Surroundings.read, found]
    simp only [decoded]
    rfl
  rw [Surroundings.readSettings, read]
  rfl

theorem perform_of_unchecked (given : a.settings = some name) (found : s.file name = .ok bytes)
    (decoded : decode bytes = .ok t) (failed : ofText t = .error (.unchecked fault)) :
    a.perform s = .error (.unchecked fault) := by
  rw [Arguments.perform, given, readSettings_of_decode found decoded, failed]
  rfl

theorem perform_of_error (given : a.settings = some name) (found : s.file name = .ok bytes)
    (decoded : decode bytes = .ok t) {error : Error} (failed : ofText t = .error error)
    (checked : ∀ fault, error ≠ .unchecked fault) :
    a.perform s = .ok (stop 2 (.settingsNotLoaded error.message)) := by
  rw [Arguments.perform, given, readSettings_of_decode found decoded, failed]
  cases error with
  | unchecked fault => exact absurd rfl (checked fault)
  | _ => rfl

/-- Of all values that hold no settings, only those with a delay beyond the floats are not reported as such: the check
cannot be carried out, and a call of the command line crashes. With any other such value for its settings the call ends
with exit code 2 and tells what is wrong. -/
theorem reported_unless_delay_too_large {v : Value}
    (texts : ∀ entries, v = .map entries → ∀ e ∈ entries, ∃ t, e.1 = .str t) :
    (∀ fault, ofValue v = .error (.unchecked fault) ↔ fault = .integerTooLarge ∧ HasDelayTooLarge v) ∧
      ∀ (a : Arguments) (s : Surroundings) (name t : Text) (bytes : List UInt8) (error : Error),
        a.settings = some name → s.file name = .ok bytes → decode bytes = .ok t → Yaml.parse t = .ok v →
        v ≠ .null → ofValue v = .error error →
          (HasDelayTooLarge v → a.perform s = .error (.unchecked .integerTooLarge)) ∧
          (¬ HasDelayTooLarge v → a.perform s = .ok (stop 2 (.settingsNotLoaded error.message))) := by
  refine ⟨fun fault => ofValue_unchecked_iff texts, ?_⟩
  intro a s name t bytes error given found decoded parsed some failed
  have failedText := (ofText_of_parse parsed some).trans failed
  constructor
  · intro tooLarge
    have unchecked := (ofValue_unchecked_iff texts).mpr ⟨rfl, tooLarge⟩
    obtain rfl := Except.error.inj (failed.symm.trans unchecked)
    exact perform_of_unchecked given found decoded failedText
  · intro inRange
    refine perform_of_error given found decoded failedText ?_
    rintro fault rfl
    exact inRange ((ofValue_unchecked_iff texts).mp failed).2

theorem exists_of_any_toOption {α ε : Type} {x : Except ε α} {p : α → Bool} (holds : x.toOption.any p = true) :
    ∃ a, x = .ok a ∧ p a = true := by
  cases x with
  | ok a => exact ⟨a, rfl, holds⟩
  | error => contradiction

theorem eq_of_same_str {key : Text} {w : Value} (same : (Value.str key).same w = true) : w = .str key := by
  cases w <;> simp_all [Value.same]

theorem eq_of_same_int {n : Int} {w : Value} (same : (Value.int n).same w = true) : w = .int n := by
  cases w <;> simp_all [Value.same]

theorem eq_of_same_single {key : Text} {n : Int} {w : Value}
    (same : (Value.map [(.str key, .int n)]).same w = true) : w = .map [(.str key, .int n)] := by
  cases w with
  | map entries =>
    rw [Value.same] at same
    cases entries with
    | nil => contradiction
    | cons e rest =>
      rw [Value.sameEntries, Bool.and_eq_true, Bool.and_eq_true] at same
      obtain ⟨⟨sameKey, sameValue⟩, sameRest⟩ := same
      have single : e = (.str key, .int n) := Prod.ext (eq_of_same_str sameKey) (eq_of_same_int sameValue)
      cases rest with
      | nil => rw [single]
      | cons => contradiction
  | _ => simp [Value.same] at same

/-- A delay with 257 hexadecimal digits crashes a call whose settings file gives it. -/
theorem reported_unless_delay_too_large_hexadecimal :
    let t := "run_delay: 0x1".toList ++ List.replicate 256 '0'
    let v := Value.map [(.str "run_delay".toList, .int (16 ^ 256))]
    let bytes := t.map fun c => c.toNat.toUInt8
    let s : Surroundings := { file := fun _ => .ok bytes, input := [] }
    let a : Arguments := { settings := some "vibes.yaml".toList, verbose := false, command := .examples 1 }
    Yaml.parse t = .ok v ∧ ofValue v = .error (.unchecked .integerTooLarge) ∧
      a.perform s = .error (.unchecked .integerTooLarge) := by
  intro t v bytes s a
  have texts : ∀ entries, v = .map entries → ∀ e ∈ entries, ∃ t, e.1 = .str t := by
    intro entries same
    obtain rfl := Value.map.inj same
    exact List.forall_mem_singleton.mpr ⟨_, rfl⟩
  have tooLarge : HasDelayTooLarge v := by
    refine ⟨_, 16 ^ 256, rfl, List.forall_mem_singleton.mpr (by decide), ⟨_, rfl⟩, rfl, ?_⟩
    have bound : Decimal.infiniteFrom ≤ 16 ^ 256 := by decide +kernel
    exact_mod_cast bound
  have parsed : Yaml.parse t = .ok v := by
    obtain ⟨w, read, same⟩ := exists_of_any_toOption (by decide +kernel : (Yaml.parse t).toOption.any v.same = true)
    rw [read, eq_of_same_single same]
  have decoded : decode bytes = .ok t := by
    obtain ⟨u, read, same⟩ := exists_of_any_toOption (by decide +kernel : (decode bytes).toOption.any (· == t) = true)
    exact read.trans (congrArg Except.ok (beq_iff_eq.mp same))
  obtain ⟨unchecked, call⟩ := reported_unless_delay_too_large texts
  have failed := (unchecked .integerTooLarge).mpr ⟨rfl, tooLarge⟩
  exact ⟨parsed, failed, (call a s _ _ _ _ rfl rfl decoded parsed (by simp [v]) failed).1 tooLarge⟩

end

end Playground.Settings
