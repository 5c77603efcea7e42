import Mathlib.Data.List.Basic
import Playground.Proofs.Decimal.Digits
import Playground.Proofs.Text.Lines
import Playground.Proofs.Yaml.Plain
import Playground.Yaml.Reader

namespace Playground.Yaml

theorem isWord_ofNat (n : Nat) : IsWord (Text.ofNat n) where
  nonempty := Text.ofNat_ne_nil n
  chars c member := by
    have digit := Text.isDigit_of_mem_ofNat member
    exact Or.inl (by simp [Char.isAlphanum, digit])

section
variable {c : Char} {rest : Text} (digits : ∀ d ∈ c :: rest, d.isDigit = true)
include digits

theorem not_mem_digits {d : Char} (other : d.isDigit = false) : d ∉ c :: rest := by
  intro member
  rw [digits d member] at other
  contradiction

/-- What starts with a digit is no truth word and no word for nothing. -/
theorem isWordOf_digits {words : List String} (others : ∀ w ∈ words, w.toList.head?.any Char.isDigit = false) :
    isWordOf words (c :: rest) = false := by
  rw [isWordOf, List.any_eq_false]
  intro w member same
  have first := others w member
  rw [beq_iff_eq.mp same, List.head?_cons, Option.any_some, digits c List.mem_cons_self] at first
  contradiction

theorem head_ne_of_digits {d : Char} (other : d.isDigit = false) : c ≠ d := by
  rintro rfl
  exact not_mem_digits digits other List.mem_cons_self

theorem dropSign_digits : dropSign (c :: rest) = c :: rest := by
  have noMinus := head_ne_of_digits digits (by decide : Char.isDigit '-' = false)
  have noPlus := head_ne_of_digits digits (by decide : Char.isDigit '+' = false)
  unfold dropSign
  split <;> simp_all

theorem isFloat_digits : isFloat (c :: rest) = false := by
  have noPoint : ∀ d ∈ c :: rest, (d != '.') = true := by
    intro d member
    simp only [bne_iff_ne]
    rintro rfl
    exact not_mem_digits digits (by decide) member
  have passed : ((c :: rest) ++ []).dropWhile (· != '.') = [].dropWhile (· != '.') :=
    List.dropWhile_append_of_pos noPoint
  have none : (c :: rest).dropWhile (· != '.') = [] := by simpa using passed
  simp only [isFloat, dropSign_digits digits, none]

theorem splitBy_digits : Text.splitBy (· == ':') (c :: rest) = [c :: rest] := by
  refine Text.splitBy_of_not_mem ?_
  intro d member
  simp only [beq_eq_false_iff_ne]
  rintro rfl
  exact not_mem_digits digits (by decide) member

theorem dropUnderscores_digits : dropUnderscores (c :: rest) = c :: rest := by
  rw [dropUnderscores, List.filter_eq_self]
  intro d member
  simp only [bne_iff_ne]
  rintro rfl
  exact not_mem_digits digits (by decide) member

theorem isInt_digits (noZero : c ≠ '0') : isInt (c :: rest) = true := by
  have first := digits c List.mem_cons_self
  have others : rest.all isDigitOrUnderscore = true := by
    rw [List.all_eq_true]
    intro d member
    simp [isDigitOrUnderscore, digits d (List.mem_cons_of_mem c member)]
  rw [isInt, dropSign_digits digits]
  split
  case h_4 => simp [splitBy_digits digits, isDigits, first, others]
  all_goals
    rename_i same
    exact absurd (List.cons.inj same).1 noZero

theorem readDigits_digits (short : (c :: rest).length ≤ Decimal.maxDigits) :
    readDigits 10 (c :: rest) = .ok (Decimal.ofDigits 10 (c :: rest)) := by
  have step (n : Nat) (d : Char) (member : d ∈ c :: rest) :
      n * 10 + (Text.hexValue? d).getD 0 = n * 10 + (d.toNat - '0'.toNat) := by
    have range := digits d member
    simp only [Char.isDigit, Bool.and_eq_true, decide_eq_true_eq] at range
    rw [Text.hexValue?, if_pos ⟨range.1, range.2⟩]
    rfl
  rw [readDigits, Decimal.ofDigits, List.foldl_ext _ _ 0 step]
  simpa using short

theorem readInt_digits (noZero : c ≠ '0') (short : (c :: rest).length ≤ Decimal.maxDigits) :
    readInt (c :: rest) = .ok (Decimal.ofDigits 10 (c :: rest) : Nat) := by
  have noMinus : ((c :: rest).head? == some '-') = false := by
    simpa using head_ne_of_digits digits (by decide : Char.isDigit '-' = false)
  rw [readInt, dropUnderscores_digits digits, signOf, noMinus, dropSign_digits digits]
  simp only [bind, Except.bind]
  split
  case h_5 =>
    simp [splitBy_digits digits, readDigits_digits digits short, bind, Except.bind, pure, Except.pure]
  all_goals
    rename_i same
    exact absurd (List.cons.inj same).1 noZero

end

/-- A positive number starts with a digit other than zero. -/
theorem exists_digits {n : Nat} (positive : 0 < n) :
    ∃ c rest, Text.ofNat n = c :: rest ∧ c ≠ '0' ∧ ∀ d ∈ c :: rest, d.isDigit = true := by
  obtain ⟨c, rest, same⟩ := List.exists_cons_of_ne_nil (Text.ofNat_ne_nil n)
  refine ⟨c, rest, same, ?_, fun d member => Text.isDigit_of_mem_ofNat (same ▸ member)⟩
  rintro rfl
  exact Text.head_ofNat_ne_zero positive rest same

/-- The digits of a number mean an integer. -/
theorem meaning_ofNat (n : Nat) : Meaning.ofText (Text.ofNat n) = .int := by
  by_cases zero : n = 0
  · rw [zero]
    decide
  obtain ⟨c, rest, same, noZero, digits⟩ := exists_digits (Nat.pos_of_ne_zero zero)
  rw [same, Meaning.ofText, isWordOf_digits digits (by decide), isWordOf_digits digits (by decide),
    isWordOf_digits digits (by decide), isFloat_digits digits, isInt_digits digits noZero]
  rfl

/-- A number that is not too long is read back. -/
theorem readInt_ofNat {n : Nat} (short : Decimal.IsShort n) : readInt (Text.ofNat n) = .ok n := by
  by_cases zero : n = 0
  · rw [zero]
    rfl
  have fits : (Text.ofNat n).length ≤ Decimal.maxDigits := short
  have value := Decimal.ofDigits_ofNat n
  obtain ⟨c, rest, same, noZero, digits⟩ := exists_digits (Nat.pos_of_ne_zero zero)
  rw [same] at fits value ⊢
  rw [readInt_digits digits noZero fits, value]

theorem scalarValue_ofNat {n : Nat} (short : Decimal.IsShort n) : scalarValue (Text.ofNat n) true = .ok (.int n) := by
  rw [scalarValue, meaning_ofNat]
  simp [readInt_ofNat short, content, bind, Except.bind, pure, Except.pure]

end Playground.Yaml
