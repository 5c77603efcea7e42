import Mathlib
import Playground.Decimal.Binary

namespace Playground.Decimal

open Float.Model Float.Model.UnpackedFloat

theorem roundEven_le (numerator denominator : Nat) :
    numerator / denominator ≤ roundEven numerator denominator ∧
      roundEven numerator denominator ≤ numerator / denominator + 1 := by
  rw [roundEven]
  grind

theorem roundEven_mul {denominator : Nat} (positive : 0 < denominator) (n : Nat) :
    roundEven (n * denominator) denominator = n := by
  rw [roundEven, Nat.mul_mod_left, Nat.mul_div_cancel n positive, if_pos (by omega)]

/-- An odd number is passed from halfway to the next one on, for there a tie goes to the next one. -/
theorem roundEven_le_iff {denominator q : Nat} (positive : 0 < denominator) (odd : q % 2 = 1) (numerator : Nat) :
    roundEven numerator denominator ≤ q ↔ 2 * numerator < (2 * q + 1) * denominator := by
  have whole := Nat.div_add_mod numerator denominator
  have below := Nat.mod_lt numerator positive
  rw [roundEven]
  generalize numerator / denominator = quotient at whole ⊢
  generalize numerator % denominator = rest at whole below ⊢
  have twice : 2 * numerator = 2 * (quotient * denominator) + 2 * rest := by rw [← whole]; ring
  have half : (2 * q + 1) * denominator = 2 * (q * denominator) + denominator := by ring
  rw [twice, half]
  rcases Nat.lt_trichotomy quotient q with less | rfl | more
  · have room : (quotient + 1) * denominator ≤ q * denominator := Nat.mul_le_mul_right denominator less
    rw [Nat.add_one_mul] at room
    grind
  · grind
  · have room : (q + 1) * denominator ≤ quotient * denominator := Nat.mul_le_mul_right denominator more
    rw [Nat.add_one_mul] at room
    grind

/-- What shifting a whole number to the right by `n` places keeps of the places that are lost: whether they come to
half of the last place or more, and whether they come to something else than nothing or just half of it. -/
theorem shiftRight_exact (m n : Nat) :
    (ExtendedMantissa.ofMantissaAndAccuracy m .exact >>> n).mantissa = m / 2 ^ n ∧
      ((ExtendedMantissa.ofMantissaAndAccuracy m .exact >>> n).roundBit = true ↔ 2 ^ n ≤ 2 * (m % 2 ^ n)) ∧
      ((ExtendedMantissa.ofMantissaAndAccuracy m .exact >>> n).stickyBit = true ↔
        m % 2 ^ n ≠ 0 ∧ 2 * (m % 2 ^ n) ≠ 2 ^ n) := by
  induction n with
  | zero => simp [HShiftRight.hShiftRight, Nat.repeat, ExtendedMantissa.ofMantissaAndAccuracy, Nat.mod_one]
  | succ n ih =>
    obtain ⟨mantissa, half, other⟩ := ih
    have step : ExtendedMantissa.ofMantissaAndAccuracy m .exact >>> (n + 1) =
      (ExtendedMantissa.ofMantissaAndAccuracy m .exact >>> n).shiftRightOne := rfl
    have rest : m % 2 ^ (n + 1) = m % 2 ^ n + 2 ^ n * (m / 2 ^ n % 2) := by rw [pow_succ, Nat.mod_mul]
    have below := Nat.mod_lt m (Nat.two_pow_pos n)
    have double : 2 ^ (n + 1) = 2 * 2 ^ n := by rw [pow_succ, Nat.mul_comm]
    rw [step, rest, double]
    simp only [ExtendedMantissa.shiftRightOne, mantissa, bne_iff_ne, Bool.or_eq_true, half, other]
    refine ⟨by rw [Nat.div_div_eq_div_mul, Nat.mul_comm], ?_, ?_⟩
    · rcases Nat.mod_two_eq_zero_or_one (m / 2 ^ n) with even | odd
      · rw [even]; omega
      · rw [odd]; omega
    · rcases Nat.mod_two_eq_zero_or_one (m / 2 ^ n) with even | odd
      · rw [even]; omega
      · rw [odd]; omega

theorem roundedMantissa_shiftRight (m n : Nat) :
    (ExtendedMantissa.ofMantissaAndAccuracy m .exact >>> n).roundedMantissa = roundEven m (2 ^ n) := by
  obtain ⟨mantissa, half, other⟩ := shiftRight_exact m n
  generalize ExtendedMantissa.ofMantissaAndAccuracy m .exact >>> n = em at mantissa half other
  obtain ⟨quotient, roundBit, stickyBit⟩ := em
  obtain rfl : quotient = m / 2 ^ n := mantissa
  dsimp only at half other
  rw [ExtendedMantissa.roundedMantissa, roundEven]
  -- The two bits say on which side of a half the remainder lies.
  cases roundBit <;> cases stickyBit <;>
    simp only [ExtendedMantissa.accuracy, Accuracy.roundToNearestEven] <;> simp at half other <;> grind

theorem shiftToTargetExponent_exact {m : Nat} {e : Int} {k : Nat} (full : m.log2 = 52 + k) (low : -1074 ≤ e + k) :
    shiftToTargetExponent Format.binary64 m e .exact =
      (ExtendedMantissa.ofMantissaAndAccuracy m .exact >>> k, e + k) := by
  have target : Format.binary64.targetExponent (totalExponent m e) = e + k := by
    simp only [Format.targetExponent, totalExponent, Format.mantissaBits, Format.minExponent, full]
    norm_num
    omega
  have shift : (e + k - e).toNat = k := by omega
  rw [shiftToTargetExponent, target, shiftToExponent, shift]

/-- Rounding a number of at least 53 places leaves 53 of them. One more place is dropped if rounding up carries
over. -/
theorem exists_roundWithAccuracy (s : Sign) {m : Nat} {e : Int} {k : Nat} (full : m.log2 = 52 + k)
    (low : -1074 ≤ e + k) :
    ∃ r e' positive, roundWithAccuracy Format.binary64 s m e .exact = .finite s r e' positive ∧ r.log2 = 52 ∧
      e' = if roundEven m (2 ^ k) < 2 ^ 53 then e + k else e + k + 1 := by
  have some : m ≠ 0 := by
    rintro rfl
    rw [Nat.log2_zero] at full
    omega
  obtain ⟨least, most⟩ := (Nat.log2_eq_iff some).mp full
  have atLeast : 2 ^ 52 ≤ m / 2 ^ k := by
    rw [Nat.le_div_iff_mul_le (Nat.two_pow_pos k), ← pow_add]
    exact least
  have atMost : m / 2 ^ k < 2 ^ 53 := by
    rw [Nat.div_lt_iff_lt_mul (Nat.two_pow_pos k), ← pow_add]
    rwa [show 53 + k = 52 + k + 1 by omega]
  obtain ⟨floor, ceil⟩ := roundEven_le m (2 ^ k)
  rw [roundWithAccuracy, shiftToTargetExponent_exact full low]
  dsimp only
  rw [roundedMantissa_shiftRight]
  generalize roundEven m (2 ^ k) = r at floor ceil
  by_cases carries : r < 2 ^ 53
  · have full' : r.log2 = 52 + 0 := (Nat.log2_eq_iff (by omega)).mpr ⟨by omega, by omega⟩
    have again := shiftToTargetExponent_exact (e := e + k) full' (by omega)
    refine ⟨r, e + k, by omega, ?_, full', (if_pos carries).symm⟩
    rw [Nat.cast_zero, add_zero] at again
    simp only [again]
    exact dif_neg (by omega : r ≠ 0)
  · -- Rounding up has carried over to one more place, which is a zero.
    obtain rfl : r = 2 ^ 53 := by omega
    have again := shiftToTargetExponent_exact (e := e + k) (k := 1) (Nat.log2_two_pow : (2 ^ 53).log2 = 53) (by omega)
    refine ⟨2 ^ 52, e + k + 1, by decide, ?_, Nat.log2_two_pow, (if_neg carries).symm⟩
    simp only [again]
    rfl

/-- A mantissa of 53 places is given back when it is packed, unless the exponent is too great for a finite float. -/
theorem unpack_pack (s : Sign) {r : Nat} {e : Int} (positive : 0 < r) (full : r.log2 = 52) (low : -1074 ≤ e) :
    (Float.Model.pack (.finite s r e positive)).unpack =
      if e ≤ 971 then .finite s r e positive else .infinity s := by
  change UnpackedFloat.unpack Format.binary64 (UnpackedFloat.pack Format.binary64 (.finite s r e positive)) = _
  have bias : Format.binary64.exponentBias = 1023 := by decide
  have places : Format.binary64.mantissaBits = 53 := by decide
  rw [UnpackedFloat.pack.eq_def]
  simp only [bias, places, full]
  by_cases fits : e ≤ 971
  · obtain ⟨least, most⟩ := (Nat.log2_eq_iff positive.ne').mp full
    have exponent : (BitVec.ofNat 11 (e + (1023 : Nat) + (52 : Nat)).toNat).toNat = (e + 1075).toNat := by
      rw [BitVec.toNat_ofNat, Nat.mod_eq_of_lt (by omega)]
      omega
    have notZero : BitVec.ofNat 11 (e + (1023 : Nat) + (52 : Nat)).toNat ≠ 0#11 := by
      rw [ne_eq, ← BitVec.toNat_inj, exponent, BitVec.toNat_zero]
      omega
    have notTop : BitVec.ofNat 11 (e + (1023 : Nat) + (52 : Nat)).toNat ≠ -1#11 := by
      rw [ne_eq, ← BitVec.toNat_inj, exponent, BitVec.neg_one_eq_allOnes, BitVec.toNat_allOnes]
      omega
    have mantissa : (1#1 ++ BitVec.ofNat 52 r).toNat = r := by
      rw [BitVec.toNat_append, ← Nat.shiftLeft_add_eq_or_of_lt (BitVec.isLt _), BitVec.toNat_ofNat,
        BitVec.toNat_ofNat]
      omega
    rw [if_neg (by omega), if_pos trivial, if_pos fits]
    simp only [UnpackedFloat.unpack, unpackExponent_packComponents, unpackMantissa_packComponents,
      unpackSign_packComponents, Sign.ofBitVec_toBitVec, notTop, notZero, exponent, mantissa, if_false, bias]
    congr 1
    omega
  · rw [if_pos (by omega), if_neg fits]
    simp [packedInfinity, UnpackedFloat.unpack]
end Playground.Decimal
