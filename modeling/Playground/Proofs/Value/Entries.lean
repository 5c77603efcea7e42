import Mathlib.Data.List.Nodup
import Playground.Value.Order

namespace Playground.Value

/-- Entries with texts for keys. -/
def keyed (entries : List (Text × Value)) : List (Value × Value) := entries.map fun e => (.str e.1, e.2)

theorem put_keyed {key : Text} {entries : List (Text × Value)} (fresh : key ∉ entries.map (·.1)) (value : Value) :
    put (.str key) value (keyed entries) = keyed (entries ++ [(key, value)]) := by
  induction entries with
  | nil => rfl
  | cons entry entries ih =>
    simp only [List.map_cons, List.mem_cons, not_or] at fresh
    have other : (entry.1 == key) = false := beq_eq_false_iff_ne.mpr (Ne.symm fresh.1)
    have rest := ih fresh.2
    simp only [keyed, List.map_cons, List.cons_append, put, sameKey, other] at rest ⊢
    rw [rest]
    rfl

/-- Distinct keys stay in the order in which they are set. -/
theorem ofPairs_keyed {entries : List (Text × Value)} (nodup : (entries.map (·.1)).Nodup) :
    ofPairs (keyed entries) = keyed entries := by
  have from_front : ∀ front : List (Text × Value), ((front ++ entries).map (·.1)).Nodup →
      (keyed entries).foldl (fun es e => put e.1 e.2 es) (keyed front) = keyed (front ++ entries) := by
    clear nodup
    induction entries with
    | nil => simp [keyed]
    | cons entry entries ih =>
      intro front nodup
      have fresh : entry.1 ∉ front.map (·.1) := by
        rw [List.map_append, List.nodup_append] at nodup
        intro member
        exact nodup.2.2 _ member _ (by simp) rfl
      have next := ih (front ++ [entry]) (by rwa [List.append_assoc])
      rw [List.append_assoc] at next
      rw [← put_keyed fresh] at next
      exact next
  exact from_front [] nodup

theorem field?_keyed {entries : List (Text × Value)} (nodup : (entries.map (·.1)).Nodup) {key : Text}
    {value : Value} (member : (key, value) ∈ entries) : field? key (keyed entries) = some value := by
  induction entries with
  | nil => contradiction
  | cons entry entries ih =>
    rw [List.map_cons, List.nodup_cons] at nodup
    rw [keyed, List.map_cons, field?]
    rcases List.mem_cons.mp member with rfl | later
    · simp
    · have other : entry.1 ≠ key := by
        intro same
        exact nodup.1 (List.mem_map.mpr ⟨(key, value), later, same.symm⟩)
      rw [if_neg (by simpa using other)]
      exact ih nodup.2 later

theorem field?_keyed_of_not_mem {entries : List (Text × Value)} {key : Text} (absent : key ∉ entries.map (·.1)) :
    field? key (keyed entries) = none := by
  induction entries with
  | nil => rfl
  | cons entry entries ih =>
    obtain ⟨other, later⟩ := List.ne_and_not_mem_of_not_mem_cons absent
    rw [keyed, List.map_cons, field?, if_neg (by simpa using other.symm)]
    exact ih later

theorem lookup_keyed {entries : List (Text × Value)} (nodup : (entries.map (·.1)).Nodup) {key : Text}
    {value : Value} (member : (key, value) ∈ entries) : (map (keyed entries)).lookup key = .ok value := by
  rw [lookup, field?_keyed nodup member]

theorem lookup_eq_ok_iff {v value : Value} {key : Text} :
    v.lookup key = .ok value ↔ ∃ entries, v = map entries ∧ field? key entries = some value := by
  constructor
  · intro found
    cases v with
    | map entries =>
      refine ⟨entries, rfl, ?_⟩
      rw [lookup] at found
      cases under : field? key entries with
      | none => simp [under] at found
      | some w => simpa [under] using found
    | _ => simp [lookup] at found
  · rintro ⟨entries, rfl, under⟩
    rw [lookup, under]

/-- A default is not used where the key is present. -/
theorem lookupD_of_lookup {v value : Value} {key : Text} (found : v.lookup key = .ok value) (default : Value) :
    v.lookupD key default = .ok value := by
  obtain ⟨entries, rfl, under⟩ := lookup_eq_ok_iff.mp found
  rw [lookupD, under]
  rfl

/-- What is not the default stands under the key. -/
theorem lookup_of_lookupD {v value default : Value} {key : Text} (found : v.lookupD key default = .ok value)
    (other : value ≠ default) : v.lookup key = .ok value := by
  cases v with
  | map entries =>
    rw [lookupD, Except.ok.injEq] at found
    cases under : field? key entries with
    | none =>
      rw [under, Option.getD_none] at found
      exact absurd found.symm other
    | some w =>
      rw [under, Option.getD_some] at found
      rw [lookup, under, found]
  | _ => simp [lookupD] at found

section
variable {α : Type} {key : α → Value}

theorem insertBy_perm {x : α} {xs : List α} (text : ∃ t, key x = .str t) (texts : ∀ y ∈ xs, ∃ t, key y = .str t) :
    ∃ ys, insertBy key x xs = .ok ys ∧ ys.Perm (x :: xs) := by
  obtain ⟨t, hx⟩ := text
  induction xs with
  | nil => exact ⟨[x], rfl, List.Perm.refl _⟩
  | cons y xs ih =>
    obtain ⟨u, hy⟩ := texts y (by simp)
    obtain ⟨ys, inserted, perm⟩ := ih fun z member => texts z (by simp [member])
    rw [insertBy, hx, hy, less, inserted]
    by_cases before : t < u
    · exact ⟨x :: y :: xs, by simp [before, bind, Except.bind, pure, Except.pure], List.Perm.refl _⟩
    · refine ⟨y :: ys, by simp [before, bind, Except.bind, pure, Except.pure], ?_⟩
      exact (perm.cons y).trans (List.Perm.swap x y xs)

/-- Keys that are texts can always be sorted, and nothing is lost or added. -/
theorem sortBy_perm {xs : List α} (texts : ∀ x ∈ xs, ∃ t, key x = .str t) :
    ∃ ys, sortBy key xs = .ok ys ∧ ys.Perm xs := by
  have onto : ∀ sorted : List α, (∀ x ∈ sorted ++ xs, ∃ t, key x = .str t) →
      ∃ ys, xs.foldlM (fun sorted x => insertBy key x sorted) sorted = .ok ys ∧ ys.Perm (sorted ++ xs) := by
    clear texts
    induction xs with
    | nil =>
      intro sorted _
      exact ⟨sorted, rfl, by simp⟩
    | cons x xs ih =>
      intro sorted texts
      obtain ⟨next, inserted, perm⟩ := insertBy_perm (texts x (by simp))
        fun y (member : y ∈ sorted) => texts y (by simp [member])
      have moved : (next ++ xs).Perm (sorted ++ x :: xs) :=
        (perm.append_right xs).trans List.perm_middle.symm
      obtain ⟨ys, folded, all⟩ := ih next fun y member => texts y (moved.mem_iff.mp member)
      refine ⟨ys, ?_, all.trans moved⟩
      rw [List.foldlM_cons, inserted]
      exact folded
  simpa [sortBy] using onto [] (by simpa using texts)

end

end Playground.Value
