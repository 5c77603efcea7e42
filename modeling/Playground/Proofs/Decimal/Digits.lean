import Playground.Decimal.Reading

namespace Playground

namespace Text

theorem isDigit_of_mem_ofNat {n : Nat} {c : Char} (member : c ∈ ofNat n) : c.isDigit = true :=
  Nat.isDigit_of_mem_toDigits (by decide) (by decide) member

theorem ofNat_ne_nil (n : Nat) : ofNat n ≠ [] := Nat.toDigits_ne_nil

theorem digitChar_ne_zero : ∀ n < 10, 0 < n → n.digitChar ≠ '0' := by decide

/-- Only zero is written with a zero in front. -/
theorem head_ofNat_ne_zero {n : Nat} (positive : 0 < n) (rest : Text) : ofNat n ≠ '0' :: rest := by
  induction n using Nat.strongRecOn generalizing rest with
  | ind n ih =>
    by_cases small : n < 10
    · rw [ofNat, Nat.toDigits_of_lt_base small]
      intro same
      exact digitChar_ne_zero n small positive (List.cons.inj same).1
    · rw [ofNat, Nat.toDigits_of_base_le (by decide) (by omega)]
      cases front : Nat.toDigits 10 (n / 10) with
      | nil => exact absurd front Nat.toDigits_ne_nil
      | cons c more =>
        intro same
        obtain ⟨rfl, _⟩ := List.cons.inj same
        exact ih (n / 10) (by omega) (by omega) more front

/-- A greater number has no fewer digits. -/
theorem length_ofNat_mono {m n : Nat} (le : m ≤ n) : (ofNat m).length ≤ (ofNat n).length := by
  have below := (Nat.length_toDigits_le_iff (by decide : 1 < 10) Nat.length_toDigits_pos).mp
    (Nat.le_refl (Nat.toDigits 10 n).length)
  exact (Nat.length_toDigits_le_iff (by decide) Nat.length_toDigits_pos).mpr (Nat.lt_of_le_of_lt le below)

theorem toNat_of_isDigit {c : Char} (digit : c.isDigit = true) : 48 ≤ c.toNat ∧ c.toNat ≤ 57 := by
  rw [Char.isDigit, Bool.and_eq_true, decide_eq_true_eq, decide_eq_true_eq] at digit
  exact digit

theorem digitValue?_of_isDigit {c : Char} (digit : c.isDigit = true) :
    digitValue? c = some (c.toNat - '0'.toNat) := by
  obtain ⟨least, greatest⟩ := toNat_of_isDigit digit
  have first : decimalDigitRanges.find? (fun r => r.1 ≤ c.toNat && c.toNat ≤ r.2) = some (48, 57) :=
    List.find?_cons_of_pos (by simp [least, greatest])
  rw [digitValue?, first, Option.map_some, Nat.mod_eq_of_lt (by omega)]
  rfl

end Text

namespace Decimal

/-- Digits read back give the number that they write. -/
theorem ofDigits_ofNat (n : Nat) : ofDigits 10 (Text.ofNat n) = n := by
  have read : Nat.ofDigitChars 10 (Text.ofNat n) 0 = n := Nat.ofDigitChars_ten_toDigits
  rw [Nat.ofDigitChars_eq_foldl] at read
  simp only [Nat.mul_comm 10] at read
  exact read

/-- An integer with no more digits than a reader takes. -/
def IsShort (n : Int) : Prop := (Text.ofNat n.natAbs).length ≤ maxDigits

instance (n : Int) : Decidable (IsShort n) := inferInstanceAs (Decidable (_ ≤ _))

theorem IsShort.of_le {m n : Nat} (short : IsShort n) (le : m ≤ n) : IsShort m :=
  Nat.le_trans (Text.length_ofNat_mono le) short

variable {digits : Text}

theorem digitRun?_of_digits (each : ∀ c ∈ digits, c.isDigit = true) :
    digitRun? true digits = some (digits.map fun c => c.toNat - '0'.toNat, []) := by
  induction digits with
  | nil => rfl
  | cons c digits ih =>
    rw [List.forall_mem_cons] at each
    rw [digitRun?, Text.digitValue?_of_isDigit each.1]
    simp only [ih each.2, Option.map_some, List.map_cons]

theorem digitRun?_ofNat (n : Nat) :
    digitRun? false (Text.ofNat n) = some ((Text.ofNat n).map fun c => c.toNat - '0'.toNat, []) := by
  obtain ⟨c, rest, digits⟩ := List.exists_cons_of_ne_nil (Text.ofNat_ne_nil n)
  have each : ∀ d ∈ c :: rest, d.isDigit = true := fun d member => Text.isDigit_of_mem_ofNat (digits ▸ member)
  rw [List.forall_mem_cons] at each
  rw [digits, digitRun?, Text.digitValue?_of_isDigit each.1]
  simp only [digitRun?_of_digits each.2, Option.map_some, List.map_cons]

theorem foldl_digits (digits : Text) :
    (digits.map fun c => c.toNat - '0'.toNat).foldl (fun n d => n * 10 + d) 0 = ofDigits 10 digits := by
  rw [List.foldl_map, ofDigits]

theorem isIntegerMargin_of_isDigit {c : Char} (digit : c.isDigit = true) : isIntegerMargin c = false := by
  have range := Text.toNat_of_isDigit digit
  have visible : Text.isBlank c = false := by
    simp only [Text.isBlank, Bool.or_eq_false_iff, Bool.and_eq_false_iff, decide_eq_false_iff_not, beq_eq_false_iff_ne]
    omega
  rw [isIntegerMargin, visible, Bool.false_and]

/-- The number of digits of an integer decides whether it is read. -/
theorem readDigits_ofNat {α : Type} (n : Nat) (few many : α) :
    (if (Text.ofNat n).length > maxDigits then many else few) = if IsShort n then few else many := by
  by_cases short : IsShort n
  · rw [if_pos short, if_neg (Nat.not_lt.mpr (show (Text.ofNat n).length ≤ maxDigits from short))]
  · rw [if_neg short, if_pos (Nat.not_le.mp (show ¬ (Text.ofNat n).length ≤ maxDigits from short))]

theorem readInteger_ofNat (n : Nat) :
    readInteger (Text.ofNat n) =
      if IsShort n then .ok n else .error (.tooManyDigits (Text.ofNat n).length) := by
  obtain ⟨c, rest, digits⟩ := List.exists_cons_of_ne_nil (Text.ofNat_ne_nil n)
  have digit : c.isDigit = true := Text.isDigit_of_mem_ofNat (digits ▸ List.mem_cons_self)
  have body : (Text.ofNat n).dropWhile isIntegerMargin = Text.ofNat n := by
    simp [digits, isIntegerMargin_of_isDigit digit]
  have noSign {sign : Char} (other : sign.isDigit = false) (more : Text) : Text.ofNat n ≠ sign :: more := by
    intro same
    obtain rfl := (List.cons.inj (digits.symm.trans same)).1
    rw [other] at digit
    contradiction
  rw [readInteger, body]
  split
  rename_i signs
  split at signs
  · next same => exact absurd same (noSign rfl _)
  · next same => exact absurd same (noSign rfl _)
  · obtain ⟨rfl, rfl⟩ := Prod.mk.inj signs
    simp only [digitRun?_ofNat, List.length_map, List.all_nil, if_true, foldl_digits, ofDigits_ofNat]
    exact readDigits_ofNat n _ _

theorem readInteger_minus (n : Nat) :
    readInteger ('-' :: Text.ofNat n) =
      if IsShort n then .ok (-(n : Int)) else .error (.tooManyDigits (Text.ofNat n).length) := by
  have body : ('-' :: Text.ofNat n).dropWhile isIntegerMargin = '-' :: Text.ofNat n := rfl
  rw [readInteger, body]
  simp only [digitRun?_ofNat, List.length_map, List.all_nil, if_true, foldl_digits, ofDigits_ofNat]
  exact readDigits_ofNat n _ _

/-- An integer is read back from its decimal digits, unless there are too many of them. -/
theorem readInteger_ofInt (n : Int) :
    readInteger (Text.ofInt n) =
      if IsShort n then .ok n else .error (.tooManyDigits (Text.ofNat n.natAbs).length) := by
  cases n with
  | ofNat n => exact readInteger_ofNat n
  | negSucc n => exact readInteger_minus (n + 1)

end Decimal

end Playground
