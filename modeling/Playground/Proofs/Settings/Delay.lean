import Playground.Proofs.Decimal.Overflow
import Playground.Settings.Basic

namespace Playground

/-- Whether a value is the float that stands for no number. -/
def Value.isNaN : Value → Bool
  | .float x => x.isNaN
  | _ => false

namespace Settings

theorem isDelay_eq_true_iff {x : Float} : isDelay x = true ↔ 0 ≤ x ∨ x.isNaN = true := by
  rw [isDelay, Bool.or_eq_true, decide_eq_true_iff]

theorem readRunDelay_int (n : Int) :
    readRunDelay (.int n) =
      if n < 0 then .error .badRunDelay
      else if (Decimal.infiniteFrom : Int) ≤ n then .error (.unchecked .integerTooLarge)
      else .ok (Decimal.toFloat false n.natAbs 0) := by
  rw [readRunDelay]
  rcases Int.lt_trichotomy n 0 with below | rfl | above
  · have sized := Decimal.sizedLike_toFloat (n := n.natAbs) (by omega) true
    obtain ⟨negative, number⟩ := Decimal.SizedLike.negative sized
    have refused : isDelay (Decimal.toFloat true n.natAbs 0) = false := by
      rw [← Bool.not_eq_true, isDelay_eq_true_iff, number]
      simpa using negative
    simp only [below, decide_true, refused, Bool.not_false, if_true]
  · -- Zero has no leading digit, so that the size of a float does not cover it.
    have inRange : ¬ (Decimal.infiniteFrom : Int) ≤ 0 := by
      have positive := Decimal.infiniteFrom_pos
      omega
    rw [if_neg (lt_irrefl (0 : Int)), if_neg inRange]
    rfl
  · have sized := Decimal.sizedLike_toFloat (n := n.natAbs) (by omega) false
    have taken : isDelay (Decimal.toFloat false n.natAbs 0) = true :=
      isDelay_eq_true_iff.mpr (Or.inl (Decimal.SizedLike.zero_le sized))
    have infinite := Decimal.SizedLike.eq_infinity_iff sized
    have size : Decimal.infiniteFrom ≤ n.natAbs ↔ (Decimal.infiniteFrom : Int) ≤ n := by omega
    have notBelow : ¬ n < 0 := by omega
    simp only [notBelow, decide_false, taken, Bool.not_true, Bool.false_eq_true, if_false, infinite, size]

theorem not_isNaN_of_zero_le {x : Float} (inOrder : 0 ≤ x) : x.isNaN = false :=
  Bool.eq_false_iff.mpr fun nan => Decimal.not_zero_le_of_isNaN nan inOrder

/-- What is taken as a delay is not below zero, except for NaN. -/
theorem order_of_readRunDelay {v : Value} {x : Float} (read : readRunDelay v = .ok x) :
    x.isNaN = v.isNaN ∧ (0 ≤ x ↔ v.isNaN = false) := by
  cases v with
  | int n =>
    have inOrder : 0 ≤ x := by
      rw [readRunDelay_int] at read
      split at read
      · contradiction
      · split at read
        · contradiction
        · obtain rfl := Except.ok.inj read
          by_cases zero : n = 0
          · subst zero
            decide +kernel
          · exact Decimal.SizedLike.zero_le (Decimal.sizedLike_toFloat (n := n.natAbs) (by omega) false)
    exact ⟨not_isNaN_of_zero_le inOrder, iff_of_true inOrder rfl⟩
  | float y =>
    rw [readRunDelay] at read
    split at read
    · next isDelay =>
      obtain rfl := Except.ok.inj read
      refine ⟨rfl, not_isNaN_of_zero_le, fun number => ?_⟩
      exact (isDelay_eq_true_iff.mp isDelay).resolve_right (Bool.eq_false_iff.mp number)
    · contradiction
  | _ => contradiction

/-- An integer beyond the floats is the only value on which the check of a delay cannot be carried out. -/
theorem readRunDelay_unchecked_iff {v : Value} {fault : Fault} :
    readRunDelay v = .error (.unchecked fault) ↔
      fault = .integerTooLarge ∧ ∃ n : Int, v = .int n ∧ (Decimal.infiniteFrom : Int) ≤ n := by
  cases v with
  | int n =>
    rw [readRunDelay_int]
    split
    · simp
      omega
    · split
      · next great => simp [great, eq_comm]
      · next less => simp [less]
  | float x =>
    rw [readRunDelay]
    split <;> simp
  | _ => simp [readRunDelay]

end Settings

end Playground
