import Playground.Decimal.Reading
import Playground.Proofs.Decimal.Rounding

namespace Playground.Decimal

open Float.Model Float.Model.UnpackedFloat

theorem log2_mul_two_pow {n : Nat} (some : n ≠ 0) (k : Nat) : (n * 2 ^ k).log2 = n.log2 + k := by
  induction k with
  | zero => rw [pow_zero, mul_one, add_zero]
  | succ k ih =>
    rw [pow_succ, ← mul_assoc, mul_comm, Nat.log2_two_mul (by positivity), ih, add_assoc]

/-- The least natural number that is no nearer to the greatest finite float than to the next power of two,
which is `2 ^ 1024`. -/
def infiniteFrom : Nat := (2 ^ 54 - 1) * 2 ^ 970

/-- All that matters about this bound. The unit is half the gap between the greatest floats. -/
theorem infiniteFrom_eq :
    ∃ w unit, w = 970 ∧ 0 < unit ∧ infiniteFrom = (2 ^ 54 - 1) * unit ∧
      ∀ k, 2 ^ (k + w) = 2 ^ k * unit := by
  -- The exponent is kept general, for nobody wants to see the power itself.
  have general (w : Nat) :
      ∃ unit, 0 < unit ∧ (2 ^ 54 - 1) * 2 ^ w = (2 ^ 54 - 1) * unit ∧ ∀ k, 2 ^ (k + w) = 2 ^ k * unit :=
    ⟨2 ^ w, Nat.two_pow_pos w, rfl, fun k => pow_add 2 k w⟩
  obtain ⟨unit, facts⟩ := general 970
  exact ⟨970, unit, rfl, facts⟩

attribute [irreducible] infiniteFrom

theorem infiniteFrom_pos : 0 < infiniteFrom := by
  obtain ⟨_, unit, _, positive, bound, _⟩ := infiniteFrom_eq
  omega

theorem exponent_le_iff {n : Nat} (some : n ≠ 0) :
    (if roundEven (n * 2 ^ 53) (2 ^ (n.log2 + 1)) < 2 ^ 53 then (n.log2 : Int) - 52 else n.log2 - 51) ≤ 971 ↔
      n < infiniteFrom := by
  obtain ⟨least, most⟩ := (Nat.log2_eq_iff some).mp rfl
  obtain ⟨w, unit, exponent, positive, bound, power⟩ := infiniteFrom_eq
  rcases Nat.lt_trichotomy n.log2 (53 + w) with fewer | just | more
  · have below : 2 ^ (n.log2 + 1) ≤ 2 ^ (53 + w) := Nat.pow_le_pow_right (by decide) fewer
    rw [power] at below
    have fits : n < infiniteFrom := by omega
    simp only [fits, iff_true]
    split <;> omega
  · -- The greatest finite floats have 1024 places before the point; the last of their mantissas is odd.
    have rounds := roundEven_le_iff (Nat.two_pow_pos (n.log2 + 1)) (by decide : (2 ^ 53 - 1) % 2 = 1) (n * 2 ^ 53)
    rw [just, show 53 + w + 1 = 54 + w by omega, power] at rounds ⊢
    generalize roundEven (n * 2 ^ 53) (2 ^ 54 * unit) = r at rounds ⊢
    split <;> omega
  · have above : 2 ^ (54 + w) ≤ 2 ^ n.log2 := Nat.pow_le_pow_right (by decide) (by omega)
    rw [power] at above
    have tooGreat : ¬ n < infiniteFrom := by omega
    simp only [tooGreat, iff_false]
    split <;> omega

/-- A number of at most 53 places fits into a mantissa as it is. -/
theorem unpack_toFloat_of_lt {n : Nat} (some : n ≠ 0) (small : n < 2 ^ 53) :
    ∃ m positive, n.toUInt64.toFloat.toModel.unpack = .finite .positive m ((n.log2 : Int) - 52) positive ∧
      m.log2 = 52 := by
  have few : n.log2 < 53 := (Nat.log2_lt some).mpr small
  have word : n.toUInt64.toNat = n := by
    rw [UInt64.toNat_ofNat']
    omega
  have full := log2_mul_two_pow some (52 - n.log2)
  have exact := roundEven_mul (Nat.two_pow_pos 0) (n * 2 ^ (52 - n.log2))
  obtain ⟨m, e, positive, rounded, filled, exponent⟩ :=
    exists_roundWithAccuracy .positive (m := n * 2 ^ (52 - n.log2)) (e := n.log2 - 52) (k := 0) (by omega) (by omega)
  have below : n * 2 ^ (52 - n.log2) < 2 ^ 53 := (Nat.log2_lt (by positivity)).mp (by omega)
  rw [pow_zero, mul_one] at exact
  rw [pow_zero, exact, if_pos below, Nat.cast_zero, add_zero] at exponent
  have target : Format.binary64.targetExponent (totalExponent n 0) = n.log2 - 52 := by
    simp only [Format.targetExponent, totalExponent, Format.mantissaBits, Format.minExponent]
    norm_num
    omega
  have model : n.toUInt64.toFloat.toModel =
    Float.Model.pack (UnpackedFloat.ofNat Format.binary64 n.toUInt64.toNat) := rfl
  have positive' : compare (n : Int) 0 = .gt := by
    rw [Int.compare_eq_gt]
    omega
  have shift : (0 - ((n.log2 : Int) - 52)).toNat = 52 - n.log2 := by omega
  have exponent' : (0 : Int) - (52 - n.log2 : Nat) = n.log2 - 52 := by omega
  rw [model, word, UnpackedFloat.ofNat, UnpackedFloat.ofInt, UnpackedFloat.normalize, positive']
  simp only [UnpackedFloat.round, target, decreaseExponent, Int.toNat_natCast, shift, exponent', Nat.shiftLeft_eq,
    rounded]
  rw [unpack_pack .positive positive filled (by omega), if_pos (by omega), exponent]
  exact ⟨m, positive, rfl, filled⟩

/-- A float with the size of a natural number and with a sign: its mantissa is filled, and its exponent is too great
for a finite float from the bound on. -/
def SizedLike (s : Sign) (n : Nat) (x : Float) : Prop :=
  ∃ r e positive, x.toModel = Float.Model.pack (.finite s r e positive) ∧ r.log2 = 52 ∧ -1074 ≤ e ∧
    (e ≤ 971 ↔ n < infiniteFrom)

theorem sizedLike_small {n : Nat} (some : n ≠ 0) (small : n < 2 ^ 53) :
    SizedLike .positive n (Float.ofScientific n false 0) := by
  have few : n.log2 < 53 := (Nat.log2_lt some).mpr small
  have fits : n < infiniteFrom := by
    obtain ⟨_, unit, _, positive, bound, _⟩ := infiniteFrom_eq
    omega
  obtain ⟨m, some', integer, filled⟩ := unpack_toFloat_of_lt some small
  have full := log2_mul_two_pow (Nat.pos_iff_ne_zero.mp some') 52
  obtain ⟨r, e, positive, rounded, filled', exponent⟩ :=
    exists_roundWithAccuracy .positive (m := m * 2 ^ 52) (e := n.log2 - 52 + -52) (k := 52) (by omega) (by omega)
  have below : m < 2 ^ 53 := (Nat.log2_lt (by omega)).mp (by omega)
  rw [roundEven_mul (Nat.two_pow_pos 52), if_pos below] at exponent
  have product : (Float.ofScientific n false 0).toModel =
      Float.Model.pack
        (UnpackedFloat.mul Format.binary64 n.toUInt64.toFloat.toModel.unpack (1.0 : Float).toModel.unpack) := by
    rw [Float.ofScientific, dif_pos ⟨small, by decide⟩]
    rfl
  have one : (1.0 : Float).toModel.unpack = .finite .positive (2 ^ 52) (-52) (by decide) := by rfl
  refine ⟨r, e, positive, ?_, filled', by omega, ?_⟩
  · rw [product, integer, one]
    exact congrArg Float.Model.pack rounded
  · simp only [fits, iff_true]
    omega

theorem sizedLike_great {n : Nat} (great : 2 ^ 53 ≤ n) : SizedLike .positive n (Float.ofScientific n false 0) := by
  have some : n ≠ 0 := by omega
  have places : Format.binary64.mantissaBits = 53 := by decide
  have full := log2_mul_two_pow some 53
  obtain ⟨r, e, positive, rounded, filled, exponent⟩ :=
    exists_roundWithAccuracy .positive (m := n * 2 ^ 53) (e := -53) (k := n.log2 + 1) (by omega) (by omega)
  have product : UnpackedFloat.ofScientific Format.binary64 n 0 =
      roundWithAccuracy Format.binary64 .positive (n * 2 ^ 53) (-53) .exact := by
    have one : (10 ^ (0 : Int).toNat : Nat) = 1 := rfl
    have notTiny : ¬ (0 : Int) < -((2 ^ Format.binary64.exponentBits : Int) + n.log2) := by
      rw [show Format.binary64.exponentBits = 11 from rfl]
      omega
    rw [UnpackedFloat.ofScientific, dif_neg some, if_neg (by decide), if_neg notTiny, if_pos le_rfl]
    simp only [UnpackedFloat.mul, places, Nat.shiftLeft_eq, one, mul_one]
    rfl
  refine ⟨r, e, positive, ?_, filled, ?_, ?_⟩
  · rw [Float.ofScientific, dif_neg (by omega), ← rounded, ← product]
    rfl
  · rw [exponent]
    split <;> omega
  · rw [← exponent_le_iff some, exponent]
    split <;> omega

theorem sizedLike_infinity {n : Nat} (great : infiniteFrom ≤ n) : SizedLike .positive n (1.0 / 0.0) :=
  ⟨2 ^ 52, 972, by decide, by decide +kernel, Nat.log2_two_pow, by decide, by simp [great]⟩

/-- An infinity is packed like a number with too great an exponent. -/
theorem pack_of_great (s : Sign) {r : Nat} {e : Int} (positive : 0 < r) (great : 971 < e) :
    Float.Model.pack (.finite s r e positive) = Float.Model.pack (.infinity s) := by
  have bias : Format.binary64.exponentBias = 1023 := by decide
  have packed : UnpackedFloat.pack Format.binary64 (.finite s r e positive) =
      UnpackedFloat.pack Format.binary64 (.infinity s) := by
    rw [UnpackedFloat.pack.eq_def]
    simp only [bias]
    exact if_pos (by omega)
  simp only [Float.Model.pack, packed]

theorem SizedLike.neg {n : Nat} {x : Float} (sized : SizedLike .positive n x) : SizedLike .negative n (-x) := by
  obtain ⟨r, e, positive, model, filled, low, fits⟩ := sized
  refine ⟨r, e, positive, ?_, filled, low, fits⟩
  have negated : (-x).toModel = Float.Model.pack x.toModel.unpack.neg := rfl
  rw [negated, model, unpack_pack .positive positive filled low]
  split
  · rfl
  · exact (pack_of_great .negative positive (by omega)).symm

/-- An integer is read as a float of its size and sign. -/
theorem sizedLike_toFloat {n : Nat} (some : n ≠ 0) (negative : Bool) :
    SizedLike (if negative then .negative else .positive) n (toFloat negative n 0) := by
  have magnitude : SizedLike .positive n (toFloat false n 0) := by
    have notSmall : ¬ (n == 0 || ((Text.ofNat n).length + 0 : Int) < -400) = true := by
      simp only [beq_eq_false_iff_ne.mpr some, Bool.false_or, decide_eq_true_eq]
      omega
    have unsigned : toFloat false n 0 =
        if ((Text.ofNat n).length + 0 : Int) > 400 then 1.0 / 0.0 else Float.ofScientific n false 0 := if_neg notSmall
    rw [unsigned]
    split
    · next long =>
      refine sizedLike_infinity ?_
      have digits : ¬ n < 10 ^ 400 := by
        rw [← Nat.length_toDigits_le_iff (by decide) (by decide)]
        rw [Text.ofNat] at long
        omega
      have bound : infiniteFrom ≤ 10 ^ 400 := by decide +kernel
      omega
    · rcases Nat.lt_or_ge n (2 ^ 53) with small | great
      · exact sizedLike_small some small
      · exact sizedLike_great great
  cases negative with
  | false => exact magnitude
  | true => exact magnitude.neg

theorem SizedLike.unpack {s : Sign} {n : Nat} {x : Float} (sized : SizedLike s n x) :
    (n < infiniteFrom ∧ ∃ r e positive, x.toModel.unpack = .finite s r e positive) ∨
      (infiniteFrom ≤ n ∧ x.toModel.unpack = .infinity s) := by
  obtain ⟨r, e, positive, model, filled, low, fits⟩ := sized
  have unpacked := unpack_pack s positive filled low
  rw [← model] at unpacked
  split at unpacked
  · next small => exact Or.inl ⟨fits.mp small, r, e, positive, unpacked⟩
  · next great => exact Or.inr ⟨Nat.le_of_not_lt (mt fits.mpr great), unpacked⟩

theorem zero_le_iff {x : Float} : 0 ≤ x ↔ UnpackedFloat.le (.zero .positive) x.toModel.unpack = true :=
  decide_eq_true_iff

theorem not_zero_le_of_isNaN {x : Float} (nan : x.isNaN = true) : ¬ 0 ≤ x := by
  have number : x.isNaN = x.toModel.unpack.isNaN := rfl
  rw [number] at nan
  rw [zero_le_iff]
  cases unpacked : x.toModel.unpack with
  | notANumber => decide
  | _ =>
    rw [unpacked] at nan
    contradiction

theorem SizedLike.zero_le {n : Nat} {x : Float} (sized : SizedLike .positive n x) : 0 ≤ x := by
  rw [zero_le_iff]
  rcases sized.unpack with ⟨_, r, e, positive, finite⟩ | ⟨_, infinite⟩
  · rw [finite]; rfl
  · rw [infinite]; rfl

/-- A float that comes from an integer is infinite exactly if the integer is beyond every finite float. -/
theorem SizedLike.eq_infinity_iff {n : Nat} {x : Float} (sized : SizedLike .positive n x) :
    (x == 1.0 / 0.0) = true ↔ infiniteFrom ≤ n := by
  have order : (x == 1.0 / 0.0) = UnpackedFloat.beq x.toModel.unpack (.infinity .positive) := rfl
  rw [order]
  rcases sized.unpack with ⟨small, r, e, positive, finite⟩ | ⟨great, infinite⟩
  · rw [finite]
    simp [UnpackedFloat.beq, UnpackedFloat.compare, Nat.not_le.mpr small]
  · rw [infinite]
    exact iff_of_true rfl great

theorem SizedLike.negative {n : Nat} {x : Float} (sized : SizedLike .negative n x) :
    ¬ 0 ≤ x ∧ x.isNaN = false := by
  have number : x.isNaN = x.toModel.unpack.isNaN := rfl
  rw [zero_le_iff, number]
  rcases sized.unpack with ⟨_, r, e, positive, finite⟩ | ⟨_, infinite⟩
  · rw [finite]; simp [UnpackedFloat.isNaN, UnpackedFloat.le, UnpackedFloat.compare]
  · rw [infinite]; simp [UnpackedFloat.isNaN, UnpackedFloat.le, UnpackedFloat.compare]

end Playground.Decimal
