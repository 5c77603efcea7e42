import Playground.Proofs.Settings.Keys
import Playground.Proofs.Value.Sorted

namespace Playground.Settings

/-- The settings that a mapping from texts describes. -/
def ofKeyed (entries : List (Text × Value)) : Except Error Settings := ofValue (.map (Value.keyed entries))

variable {entries : List (Text × Value)}

theorem contains_name (k : Key) : keys.contains k.name.toList = true :=
  List.contains_iff_mem.mpr (Key.mem_keys_iff.mpr ⟨k, rfl⟩)

theorem known_keyed (known : ∀ e ∈ entries, keys.contains e.1 = true) :
    ∀ e ∈ Value.keyed entries, isKnown e.1 = true :=
  List.forall_mem_map.mpr known

theorem Key.exists_mem_or_absent (k : Key) (entries : List (Text × Value)) :
    (∃ v, (k.name.toList, v) ∈ entries) ∨ k.name.toList ∉ entries.map (·.1) := by
  by_cases present : k.name.toList ∈ entries.map (·.1)
  · obtain ⟨⟨_, v⟩, member, rfl⟩ := List.mem_map.mp present
    exact Or.inl ⟨v, member⟩
  · exact Or.inr present

theorem Key.readIn_of_mem (distinct : (entries.map (·.1)).Nodup) {k : Key} {v : Value}
    (member : (k.name.toList, v) ∈ entries) : k.readIn (Value.keyed entries) = k.read v := by
  rw [readIn, readField, Value.field?_keyed distinct member]

theorem Key.readIn_of_absent {k : Key} (absent : k.name.toList ∉ entries.map (·.1)) :
    k.readIn (Value.keyed entries) = .ok (k.part standard) := by
  rw [readIn, readField, Value.field?_keyed_of_not_mem absent]

theorem Key.readIn_perm {others : List (Text × Value)} (distinct : (entries.map (·.1)).Nodup)
    (perm : others.Perm entries) (k : Key) : k.readIn (Value.keyed others) = k.readIn (Value.keyed entries) := by
  have keysPerm := perm.map (·.1)
  rcases k.exists_mem_or_absent entries with ⟨v, member⟩ | absent
  · rw [readIn_of_mem distinct member, readIn_of_mem (keysPerm.nodup_iff.mpr distinct) (perm.mem_iff.mpr member)]
  · rw [readIn_of_absent absent, readIn_of_absent (mt keysPerm.mem_iff.mp absent)]

theorem Key.readIn_alone (k : Key) (v : Value) : k.readIn (Value.keyed [(k.name.toList, v)]) = k.read v := by
  have distinct : ([(k.name.toList, v)].map (·.1)).Nodup := List.nodup_singleton _
  exact readIn_of_mem distinct List.mem_cons_self

theorem Key.readIn_alone_of_ne {j k : Key} (other : j ≠ k) (v : Value) :
    j.readIn (Value.keyed [(k.name.toList, v)]) = .ok (j.part standard) :=
  readIn_of_absent fun member => other (name_injective (List.mem_singleton.mp member))

theorem known_alone (k : Key) (v : Value) : ∀ e ∈ Value.keyed [(k.name.toList, v)], isKnown e.1 = true :=
  known_keyed (List.forall_mem_singleton.mpr (contains_name k))

theorem ofKeyed_alone_eq_ok_iff {k : Key} {v : Value} {s : Settings} :
    ofKeyed [(k.name.toList, v)] = .ok s ↔ k.read v = .ok (k.part s) ∧ ∀ j ≠ k, j.part s = j.part standard := by
  rw [ofKeyed, ofValue, ofEntries_known_eq_ok_iff (known_alone k v)]
  constructor
  · intro reads
    refine ⟨k.readIn_alone v ▸ reads k, fun j other => ?_⟩
    have unsaid := reads j
    rw [Key.readIn_alone_of_ne other] at unsaid
    exact (Except.ok.inj unsaid).symm
  · rintro ⟨read, rest⟩ j
    by_cases same : j = k
    · subst same
      rw [Key.readIn_alone, read]
    · rw [Key.readIn_alone_of_ne same, rest j same]

theorem ofKeyed_alone_eq_error_iff {k : Key} {v : Value} {error : Error} :
    ofKeyed [(k.name.toList, v)] = .error error ↔ k.read v = .error error := by
  rw [ofKeyed, ofValue, ofEntries_known_eq_error_iff (known_alone k v)]
  constructor
  · rintro ⟨j, failed, _⟩
    by_cases same : j = k
    · subst same
      rwa [Key.readIn_alone] at failed
    · rw [Key.readIn_alone_of_ne same] at failed
      contradiction
  · intro failed
    refine ⟨k, k.readIn_alone v ▸ failed, fun j before => ?_⟩
    exact ⟨j.part standard, Key.readIn_alone_of_ne (Key.ne_of_mem_earlier before) v⟩

theorem exists_ofKeyed_alone_iff {k : Key} {v : Value} :
    (∃ s, ofKeyed [(k.name.toList, v)] = .ok s) ↔ ∃ a, k.read v = .ok a := by
  constructor
  · rintro ⟨s, taken⟩
    exact ⟨_, (ofKeyed_alone_eq_ok_iff.mp taken).1⟩
  · rintro ⟨a, read⟩
    cases taken : ofKeyed [(k.name.toList, v)] with
    | ok s => exact ⟨s, rfl⟩
    | error error =>
      rw [ofKeyed_alone_eq_error_iff, read] at taken
      contradiction

theorem ofKeyed_of_unknown (distinct : (entries.map (·.1)).Nodup)
    (unknown : ∃ e ∈ entries, keys.contains e.1 = false) :
    ∃ sorted : List Text, sorted.Perm ((entries.map (·.1)).filter (!keys.contains ·)) ∧
      sorted.Pairwise (· < ·) ∧ ofKeyed entries = .error (.unknownKeys (sorted.map .str)) := by
  have unknownKeys : ((Value.keyed entries).map (·.1)).filter (!isKnown ·) =
      ((entries.map (·.1)).filter (!keys.contains ·)).map .str := by
    rw [Value.keyed, List.map_map, List.filter_map, List.filter_map, List.map_map]
    rfl
  obtain ⟨sorted, sorts, perm, increasing⟩ := Value.sortBy_texts (distinct.filter (!keys.contains ·))
  rw [← unknownKeys] at sorts
  obtain ⟨e, member, isUnknown⟩ := unknown
  refine ⟨sorted, perm, increasing, ofEntries_of_unknown ?_ sorts ?_⟩
  · exact ⟨_, List.mem_map_of_mem member, isUnknown⟩
  · exact List.forall_mem_map.mpr fun t _ => ⟨t, rfl⟩

theorem known_or_unknown (entries : List (Text × Value)) :
    (∀ e ∈ entries, keys.contains e.1 = true) ∨ ∃ e ∈ entries, keys.contains e.1 = false := by
  by_cases known : ∀ e ∈ entries, keys.contains e.1 = true
  · exact Or.inl known
  · simp only [not_forall, Bool.not_eq_true, exists_prop] at known
    exact Or.inr known

theorem ofKeyed_perm {others : List (Text × Value)} (distinct : (entries.map (·.1)).Nodup)
    (perm : others.Perm entries) : ofKeyed others = ofKeyed entries := by
  have keysPerm := perm.map (·.1)
  rcases known_or_unknown entries with known | unknown
  · have othersKnown : ∀ e ∈ others, keys.contains e.1 = true := fun e member => known e (perm.mem_iff.mp member)
    rw [ofKeyed, ofKeyed, ofValue, ofValue, ofEntries_of_known (known_keyed known),
      ofEntries_of_known (known_keyed othersKnown)]
    simp only [Key.readIn_perm distinct perm]
  · obtain ⟨sorted, isAll, increasing, reported⟩ := ofKeyed_of_unknown distinct unknown
    obtain ⟨e, member, isUnknown⟩ := unknown
    obtain ⟨othersSorted, isAllToo, increasingToo, reportedToo⟩ :=
      ofKeyed_of_unknown (keysPerm.nodup_iff.mpr distinct) ⟨e, perm.mem_iff.mpr member, isUnknown⟩
    -- Sorted lists without repetition that hold the same keys are the same list.
    have samePerm := isAllToo.trans ((keysPerm.filter _).trans isAll.symm)
    have same := samePerm.eq_of_pairwise (fun t u _ _ before after => absurd after (List.lt_asymm before))
      increasingToo increasing
    rw [reported, reportedToo, same]

theorem exists_ofKeyed_iff (distinct : (entries.map (·.1)).Nodup) :
    (∃ s, ofKeyed entries = .ok s) ↔ ∀ e ∈ entries, ∃ s, ofKeyed [e] = .ok s := by
  constructor
  · rintro ⟨s, taken⟩ ⟨t, v⟩ member
    obtain ⟨known, reads⟩ := ofEntries_eq_ok_iff.mp taken
    obtain ⟨k, rfl⟩ := Key.isKnown_str_iff.mp (known _ (List.mem_map_of_mem member))
    rw [exists_ofKeyed_alone_iff]
    exact ⟨_, Key.readIn_of_mem distinct member ▸ reads k⟩
  · intro each
    rcases known_or_unknown entries with known | ⟨e, member, unknown⟩
    · refine (exists_ofEntries_known_iff (known_keyed known)).mpr fun k => ?_
      rcases k.exists_mem_or_absent entries with ⟨v, member⟩ | absent
      · rw [Key.readIn_of_mem distinct member]
        exact exists_ofKeyed_alone_iff.mp (each _ member)
      · exact ⟨_, Key.readIn_of_absent absent⟩
    · have single : ([e].map (·.1)).Nodup := List.nodup_singleton _
      obtain ⟨_, _, _, reported⟩ := ofKeyed_of_unknown single ⟨e, List.mem_singleton_self e, unknown⟩
      obtain ⟨s, taken⟩ := each e member
      rw [reported] at taken
      contradiction

theorem part_ofKeyed (distinct : (entries.map (·.1)).Nodup) {s : Settings} (taken : ofKeyed entries = .ok s) {k : Key}
    {v : Value} (member : (k.name.toList, v) ∈ entries) :
    ∃ alone, ofKeyed [(k.name.toList, v)] = .ok alone ∧ k.part s = k.part alone := by
  have read := (ofEntries_eq_ok_iff.mp taken).2 k
  rw [Key.readIn_of_mem distinct member] at read
  obtain ⟨alone, takenAlone⟩ := exists_ofKeyed_alone_iff.mpr ⟨_, read⟩
  refine ⟨alone, takenAlone, ?_⟩
  exact Except.ok.inj (read.symm.trans (ofKeyed_alone_eq_ok_iff.mp takenAlone).1)

theorem part_ofKeyed_of_absent {s : Settings} (taken : ofKeyed entries = .ok s) {k : Key}
    (absent : k.name.toList ∉ entries.map (·.1)) : k.part s = k.part standard := by
  have read := (ofEntries_eq_ok_iff.mp taken).2 k
  rw [Key.readIn_of_absent absent] at read
  exact (Except.ok.inj read).symm

theorem first_failing (distinct : (entries.map (·.1)).Nodup) (known : ∀ e ∈ entries, keys.contains e.1 = true)
    {error : Error} (failed : ofKeyed entries = .error error) :
    ∃ (k : Key) (v : Value), (k.name.toList, v) ∈ entries ∧ ofKeyed [(k.name.toList, v)] = .error error ∧
      ∀ j ∈ k.earlier, ∀ w, (j.name.toList, w) ∈ entries → ∃ s, ofKeyed [(j.name.toList, w)] = .ok s := by
  obtain ⟨k, failedThere, before⟩ := (ofEntries_known_eq_error_iff (known_keyed known)).mp failed
  rcases k.exists_mem_or_absent entries with ⟨v, member⟩ | absent
  · rw [Key.readIn_of_mem distinct member] at failedThere
    refine ⟨k, v, member, ofKeyed_alone_eq_error_iff.mpr failedThere, ?_⟩
    intro j isEarlier w memberToo
    rw [exists_ofKeyed_alone_iff, ← Key.readIn_of_mem distinct memberToo]
    exact before j isEarlier
  · rw [Key.readIn_of_absent absent] at failedThere
    contradiction

theorem display_texts (ts : List Text) :
    (Value.list (ts.map .str)).display = '[' :: Text.joinWith ", ".toList (ts.map Text.quoted) ++ [']'] := by
  have items : Value.displayItems (ts.map .str) = Text.joinWith ", ".toList (ts.map Text.quoted) := by
    induction ts with
    | nil => rfl
    | cons t ts ih =>
      cases ts with
      | nil => rfl
      | cons u ts =>
        rw [List.map_cons, List.map_cons, Value.displayItems, ← List.map_cons, ih]
        rfl
  rw [Value.display, items]

theorem message_unknownKeys (ts : List Text) :
    (Error.unknownKeys (ts.map .str)).message = "Unknown configuration keys: ".toList ++
      ('[' :: Text.joinWith ", ".toList (ts.map Text.quoted) ++ [']']) :=
  congrArg ("Unknown configuration keys: ".toList ++ ·) (display_texts ts)

/-- A mapping is taken exactly if each of its entries is taken by itself; then each key that is present decides what it
would decide alone, and the others nothing. The order of the entries does not matter. If keys are unknown they are
reported, all of them and sorted; otherwise the first key whose value is not taken reports what it would alone. -/
theorem keys_independent (distinct : (entries.map (·.1)).Nodup) :
    ((∃ s, ofKeyed entries = .ok s) ↔ ∀ e ∈ entries, ∃ s, ofKeyed [e] = .ok s) ∧
      (∀ s, ofKeyed entries = .ok s → ∀ k : Key,
        (∀ v, (k.name.toList, v) ∈ entries →
          ∃ alone, ofKeyed [(k.name.toList, v)] = .ok alone ∧ k.part s = k.part alone) ∧
        (k.name.toList ∉ entries.map (·.1) → k.part s = k.part standard)) ∧
      (∀ others : List (Text × Value), others.Perm entries → ofKeyed others = ofKeyed entries) ∧
      ((∃ e ∈ entries, keys.contains e.1 = false) →
        ∃ (sorted : List Text) (error : Error),
          sorted.Perm ((entries.map (·.1)).filter (!keys.contains ·)) ∧ sorted.Pairwise (· < ·) ∧
          ofKeyed entries = .error error ∧ error.message = "Unknown configuration keys: ".toList ++
            ('[' :: Text.joinWith ", ".toList (sorted.map Text.quoted) ++ [']'])) ∧
      ∀ error, ofKeyed entries = .error error → (∀ e ∈ entries, keys.contains e.1 = true) →
        ∃ (k : Key) (v : Value), (k.name.toList, v) ∈ entries ∧ ofKeyed [(k.name.toList, v)] = .error error ∧
          ∀ j ∈ k.earlier, ∀ w, (j.name.toList, w) ∈ entries → ∃ s, ofKeyed [(j.name.toList, w)] = .ok s := by
  refine ⟨exists_ofKeyed_iff distinct, ?_, fun _ perm => ofKeyed_perm distinct perm, ?_, ?_⟩
  · intro s taken k
    exact ⟨fun _ member => part_ofKeyed distinct taken member, part_ofKeyed_of_absent taken⟩
  · intro unknown
    obtain ⟨sorted, isAll, increasing, reported⟩ := ofKeyed_of_unknown distinct unknown
    exact ⟨sorted, .unknownKeys (sorted.map .str), isAll, increasing, reported, message_unknownKeys sorted⟩
  · intro error failed known
    exact first_failing distinct known failed

/-- Of two values that are not taken, the delay is reported, though it comes later in the mapping. -/
theorem keys_independent_two_failing :
    let entries := [("examples".toList, Value.list []), ("indent_unit".toList, .str ['\t']),
      ("run_delay".toList, .str "soon".toList)]
    (entries.map (·.1)).Nodup ∧ ofKeyed entries = .error .badRunDelay ∧
      ofKeyed entries.reverse = .error .badRunDelay ∧ ¬ ∀ e ∈ entries, ∃ s, ofKeyed [e] = .ok s := by
  intro entries
  have distinct : (entries.map (·.1)).Nodup := by decide
  have failed : ofKeyed entries = .error .badRunDelay := rfl
  obtain ⟨each, _, order, _⟩ := keys_independent distinct
  refine ⟨distinct, failed, (order _ entries.reverse_perm).trans failed, fun all => ?_⟩
  obtain ⟨s, taken⟩ := each.mpr all
  rw [failed] at taken
  contradiction

end Playground.Settings
