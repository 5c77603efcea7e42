import Mathlib.Algebra.Group.Nat.Defs
import Playground.Yaml.Scalar
import Playground.Yaml.Token.Quoted

namespace Playground

namespace Text

theorem length_hex (width n : Nat) : (hex width n).length = width := by
  induction width generalizing n with
  | zero => rfl
  | succ width ih => rw [hex, List.length_append, ih, List.length_singleton]

theorem length_upperHex (width n : Nat) : (upperHex width n).length = width := by
  rw [upperHex, List.length_map, length_hex]

theorem hexValue?_digitChar : ∀ n < 16, hexValue? (Nat.digitChar n).toUpper = some n := by decide

/-- A number comes back from its digits, as long as they are wide enough for it. -/
theorem ofHex?_upperHex {width n : Nat} (fits : n < 16 ^ width) : ofHex? (upperHex width n) = some n := by
  induction width generalizing n with
  | zero =>
    have zero : n = 0 := by simpa using fits
    rw [zero]
    rfl
  | succ width ih =>
    have front := ih (n := n / 16) (Nat.div_lt_of_lt_mul (by rwa [Nat.mul_comm, ← Nat.pow_succ]))
    have last := hexValue?_digitChar (n % 16) (Nat.mod_lt n (by decide))
    have whole : n / 16 * 16 + n % 16 = n := Nat.div_add_mod' n 16
    rw [upperHex, ofHex?] at front ⊢
    rw [hex, List.map_append, List.foldl_append, front]
    simp [last, whole]

end Text

namespace Yaml

theorem characterOf_toNat (c : Char) : characterOf c.toNat = .ok c := by
  have valid : c.toNat < 0xD800 ∨ 0xDFFF < c.toNat ∧ c.toNat < 0x110000 := c.valid
  have inRange : c.toNat < 0x110000 := by omega
  have noSurrogate : (decide (0xD800 ≤ c.toNat) && decide (c.toNat < 0xE000)) = false := by
    simp only [Bool.and_eq_false_iff, decide_eq_false_iff_not]
    omega
  rw [characterOf, if_pos inRange, noSurrogate, if_neg (by decide), Char.ofNat_toNat]

/-- A hexadecimal escape gives its character back. -/
theorem readEscape_hex {sign c : Char} {width : Nat} (noMeaning : escapeMeaning? sign = none)
    (isHex : hexEscapeWidth? sign = some width) (fits : c.toNat < 16 ^ width) (t : Text) :
    readEscape (sign :: Text.upperHex width c.toNat ++ t) = .ok ([c], t) := by
  have length := Text.length_upperHex width c.toNat
  have digits : (Text.upperHex width c.toNat ++ t).take width = Text.upperHex width c.toNat := by
    rw [List.take_append_of_le_length (by omega), List.take_of_length_le (by omega)]
  have rest : (Text.upperHex width c.toNat ++ t).drop width = t := by
    rw [List.drop_append_of_le_length (by omega), List.drop_of_length_le (by omega), List.nil_append]
  rw [List.cons_append, readEscape]
  simp only [noMeaning, isHex, digits, rest, length, beq_self_eq_true, if_true, Text.ofHex?_upperHex fits,
    characterOf_toNat, bind, Except.bind, pure, Except.pure]

/-- Every escape is a backslash and something that is read as the character. -/
theorem escapeOf_reads (c : Char) :
    ∃ written, escapeOf c = '\\' :: written ∧ ∀ t, readEscape (written ++ t) = .ok ([c], t) := by
  have below : c.toNat < 0x110000 := by
    have valid : c.toNat < 0xD800 ∨ 0xDFFF < c.toNat ∧ c.toNat < 0x110000 := c.valid
    omega
  unfold escapeOf
  split
  case h_16 =>
    by_cases two : c.toNat ≤ 0xFF
    · exact ⟨_, if_pos two, readEscape_hex rfl rfl (by omega)⟩
    by_cases four : c.toNat ≤ 0xFFFF
    · exact ⟨_, (if_neg two).trans (if_pos four), readEscape_hex rfl rfl (by omega)⟩
    · exact ⟨_, (if_neg two).trans (if_neg four), readEscape_hex rfl rfl (by omega)⟩
  all_goals exact ⟨_, rfl, fun _ => rfl⟩

end Yaml

end Playground
