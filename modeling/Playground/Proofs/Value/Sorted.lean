import Playground.Proofs.Value.Entries
import Playground.Proofs.Value.Steps

namespace Playground.Value

section
variable {α : Type} (key : α → Value)

/-- Sorting elements by their keys is sorting the keys. -/
theorem insertBy_map (x : α) (xs : List α) :
    insertBy id (key x) (xs.map key) = (insertBy key x xs).map (List.map key) := by
  induction xs with
  | nil => rfl
  | cons y xs ih =>
    rw [List.map_cons, insertBy, insertBy, ih, id, id]
    cases less (key x) (key y) with
    | error => rfl
    | ok before =>
      cases before with
      | true => rfl
      | false => cases insertBy key x xs <;> rfl

theorem sortBy_map (xs : List α) : sortBy id (xs.map key) = (sortBy key xs).map (List.map key) := by
  have onto (sorted : List α) :
      (xs.map key).foldlM (fun sorted x => insertBy id x sorted) (sorted.map key) =
        (xs.foldlM (fun sorted x => insertBy key x sorted) sorted).map (List.map key) := by
    induction xs generalizing sorted with
    | nil => rfl
    | cons x xs ih =>
      rw [List.map_cons, List.foldlM_cons, List.foldlM_cons, insertBy_map]
      cases insertBy key x sorted with
      | error => rfl
      | ok next => exact ih next
  exact onto []

end

theorem lt_of_not_lt {t u : Text} (other : t ≠ u) (notBefore : ¬ t < u) : u < t := by
  by_contra notAfter
  exact other (List.le_antisymm notAfter notBefore)

variable {t : Text} {ts us : List Text}

theorem exists_insertBy_text (t : Text) (ts : List Text) :
    ∃ us, insertBy .str t ts = .ok us ∧ us.Perm (t :: ts) :=
  insertBy_perm ⟨t, rfl⟩ fun u _ => ⟨u, rfl⟩

/-- A text that is put in its place among increasing texts leaves them increasing. -/
theorem pairwise_lt_insertBy (inserted : insertBy .str t ts = .ok us) (new : t ∉ ts)
    (increasing : ts.Pairwise (· < ·)) : us.Pairwise (· < ·) := by
  induction ts generalizing us with
  | nil =>
    obtain rfl := Except.ok.inj inserted
    exact List.pairwise_singleton _ _
  | cons u ts ih =>
    obtain ⟨least, later⟩ := List.pairwise_cons.mp increasing
    obtain ⟨other, newLater⟩ := List.ne_and_not_mem_of_not_mem_cons new
    rw [insertBy, less] at inserted
    obtain ⟨before, isBefore, inserted⟩ := bind_eq_ok_iff.mp inserted
    obtain rfl := Except.ok.inj isBefore
    split at inserted
    · next before =>
      obtain rfl := Except.ok.inj inserted
      rw [decide_eq_true_iff] at before
      refine List.pairwise_cons.mpr ⟨List.forall_mem_cons.mpr ⟨before, ?_⟩, increasing⟩
      exact fun w member => List.lt_trans before (least w member)
    · next notBefore =>
      obtain ⟨rest, insertedLater, same⟩ := bind_eq_ok_iff.mp inserted
      obtain rfl := Except.ok.inj same
      rw [decide_eq_true_iff] at notBefore
      obtain ⟨_, insertedToo, perm⟩ := exists_insertBy_text t ts
      obtain rfl := Except.ok.inj (insertedLater.symm.trans insertedToo)
      refine List.pairwise_cons.mpr ⟨?_, ih insertedLater newLater later⟩
      intro w member
      rcases List.mem_cons.mp (perm.mem_iff.mp member) with rfl | old
      · exact lt_of_not_lt other notBefore
      · exact least w old

/-- Distinct texts can be sorted, and then they increase. -/
theorem sortBy_texts (distinct : ts.Nodup) :
    ∃ us : List Text, sortBy id (ts.map .str) = .ok (us.map .str) ∧ us.Perm ts ∧ us.Pairwise (· < ·) := by
  obtain ⟨us, sorts, perm⟩ : ∃ us, sortBy .str ts = .ok us ∧ us.Perm ts := sortBy_perm fun t _ => ⟨t, rfl⟩
  refine ⟨us, by rw [sortBy_map, sorts]; rfl, perm, ?_⟩
  have onto (ts sorted us : List Text) (distinct : (sorted ++ ts).Nodup) (increasing : sorted.Pairwise (· < ·))
      (sorts : ts.foldlM (fun sorted t => insertBy .str t sorted) sorted = .ok us) : us.Pairwise (· < ·) := by
    induction ts generalizing sorted with
    | nil =>
      obtain rfl := Except.ok.inj sorts
      exact increasing
    | cons t ts ih =>
      rw [List.foldlM_cons] at sorts
      obtain ⟨next, inserted, sorts⟩ := bind_eq_ok_iff.mp sorts
      obtain ⟨_, insertedToo, perm⟩ := exists_insertBy_text t sorted
      obtain rfl := Except.ok.inj (inserted.symm.trans insertedToo)
      have new : t ∉ sorted := by
        rw [List.nodup_append] at distinct
        exact fun member => distinct.2.2 t member t List.mem_cons_self rfl
      have moved : (next ++ ts).Perm (sorted ++ t :: ts) := (perm.append_right ts).trans List.perm_middle.symm
      exact ih next (moved.nodup_iff.mpr distinct) (pairwise_lt_insertBy inserted new increasing) sorts
  exact onto ts [] us distinct List.Pairwise.nil sorts

end Playground.Value
