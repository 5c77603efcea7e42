import Mathlib.Data.List.Forall2

namespace Playground

variable {α β γ ε : Type}

theorem bind_eq_ok_iff {x : Except ε α} {f : α → Except ε β} {b : β} :
    (x >>= f) = .ok b ↔ ∃ a, x = .ok a ∧ f a = .ok b := by
  cases x <;> simp [bind, Except.bind]

/-- Such a reading fails as the first of its steps that fails. -/
theorem bind_eq_error_iff {x : Except ε α} {f : α → Except ε β} {e : ε} :
    (x >>= f) = .error e ↔ x = .error e ∨ ∃ a, x = .ok a ∧ f a = .error e := by
  cases x <;> simp [bind, Except.bind]

/-- Going through a list gives a result for each element, in order. -/
theorem mapM_eq_ok_iff {f : α → Except ε β} {as : List α} {bs : List β} :
    as.mapM f = .ok bs ↔ List.Forall₂ (fun a b => f a = .ok b) as bs := by
  constructor
  · intro walked
    induction as generalizing bs with
    | nil =>
      obtain rfl := Except.ok.inj walked
      exact .nil
    | cons a as ih =>
      rw [List.mapM_cons] at walked
      obtain ⟨b, first, walked⟩ := bind_eq_ok_iff.mp walked
      obtain ⟨more, rest, same⟩ := bind_eq_ok_iff.mp walked
      obtain rfl := Except.ok.inj same
      exact .cons first (ih rest)
  · intro each
    induction each with
    | nil => rfl
    | cons first _ ih =>
      rw [List.mapM_cons, first, ih]
      rfl

theorem mapM_map_eq_ok {f : β → Except ε γ} {make : α → β} {read : α → γ}
    (each : ∀ a, f (make a) = .ok (read a)) (as : List α) : (as.map make).mapM f = .ok (as.map read) := by
  rw [mapM_eq_ok_iff, List.forall₂_map_left_iff, List.forall₂_map_right_iff, List.forall₂_same]
  exact fun a _ => each a

theorem mapM_eq_some_iff {f : α → Option β} {as : List α} {bs : List β} :
    as.mapM f = some bs ↔ as.map f = bs.map some := by
  induction as generalizing bs with
  | nil => cases bs <;> simp
  | cons a as ih =>
    cases bs <;> simp [Option.bind_eq_some_iff, ih]

/-- Going through a list gives fitting results if each of its elements has one. -/
theorem exists_mapM_eq_ok_iff {f : α → Except ε β} {fits : β → Prop} {as : List α} :
    (∃ bs, as.mapM f = .ok bs ∧ ∀ b ∈ bs, fits b) ↔ ∀ a ∈ as, ∃ b, f a = .ok b ∧ fits b := by
  simp only [mapM_eq_ok_iff]
  constructor
  · rintro ⟨bs, each, all⟩ a member
    induction each with
    | nil => contradiction
    | cons first _ ih =>
      obtain ⟨fit, more⟩ := List.forall_mem_cons.mp all
      rcases List.mem_cons.mp member with rfl | later
      · exact ⟨_, first, fit⟩
      · exact ih more later
  · intro each
    induction as with
    | nil => exact ⟨[], .nil, by simp⟩
    | cons a as ih =>
      obtain ⟨⟨b, first, fit⟩, later⟩ := List.forall_mem_cons.mp each
      obtain ⟨bs, rest, all⟩ := ih later
      exact ⟨b :: bs, .cons first rest, List.forall_mem_cons.mpr ⟨fit, all⟩⟩

end Playground
