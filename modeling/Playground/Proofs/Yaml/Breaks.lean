import Playground.Yaml.Basic

namespace Playground.Yaml

/-- A character as it is once breaks are unified, in a text without carriage returns. -/
def unified (c : Char) : Char := if c == '\u0085' then '\n' else c

@[simp]
theorem unified_of_ne {c : Char} (other : c ≠ '\u0085') : unified c = c := by
  simp [unified, other]

theorem unified_ne (c : Char) : unified c ≠ '\u0085' := by
  unfold unified
  split
  · decide
  · rename_i other
    simpa using other

theorem unifyBreaks_eq_map {t : Text} (noReturn : '\r' ∉ t) : unifyBreaks t = t.map unified := by
  induction t with
  | nil => rfl
  | cons c t ih =>
    simp only [List.mem_cons, not_or] at noReturn
    have notReturn : (c == '\r') = false := beq_eq_false_iff_ne.mpr (Ne.symm noReturn.1)
    rw [unifyBreaks, ih noReturn.2, List.map_cons, unified, notReturn, Bool.false_or]
    intro rest same
    exact absurd same.symm noReturn.1

theorem map_unified {t : Text} (none : '\u0085' ∉ t) : t.map unified = t := by
  rw [List.map_congr_left (g := id), List.map_id]
  rintro c member
  exact unified_of_ne fun same => none (same ▸ member)

@[simp]
theorem isBreak_feed : isBreak '\n' = true := rfl

@[simp]
theorem isBreak_space : isBreak ' ' = false := rfl

@[simp]
theorem isBreak_colon : isBreak ':' = false := rfl

theorem isBreak_cases {c : Char} (ends : isBreak c = true) : c = '\n' ∨ c = '\u2028' ∨ c = '\u2029' := by
  simpa [isBreak, or_assoc] using ends

theorem beq_space_of_not_blank {c : Char} (notBlank : isSpaceOrTab c = false) : (c == ' ') = false := by
  simp only [isSpaceOrTab, Bool.or_eq_false_iff] at notBlank
  exact notBlank.1

/-- A text that starts with something to read: neither a blank nor a line break. -/
def Solid (t : Text) : Prop := ∃ c more, t = c :: more ∧ isSpaceOrTab c = false ∧ isBreak c = false

/-- Every document marker starts with a dash or a dot. -/
theorem atAnyMarker_cons {c : Char} (t : Text) (notDash : c ≠ '-') (notDot : c ≠ '.') :
    atAnyMarker (c :: t) = false := by
  have start : ('-' == c) = false := beq_eq_false_iff_ne.mpr (Ne.symm notDash)
  have finish : ('.' == c) = false := beq_eq_false_iff_ne.mpr (Ne.symm notDot)
  have dashes : startMarker = ['-', '-', '-'] := rfl
  have dots : endMarker = ['.', '.', '.'] := rfl
  simp only [atAnyMarker, atMarker, Text.startsWith, dashes, dots, List.isPrefixOf_cons_cons, start, finish,
    Bool.false_and, Bool.or_self]

/-- Behind an indentation no marker is looked for. -/
theorem passBlankLines_indentation (tabs : Bool) (column width : Nat) {t : Text} (positive : 0 < column + width)
    (solid : Solid t) :
    passBlankLines tabs column (List.replicate width ' ' ++ t) = ⟨[], false, column + width, t⟩ := by
  induction width generalizing column with
  | zero =>
    obtain ⟨c, more, rfl, notBlank, notBreak⟩ := solid
    have inside : (column == 0) = false := beq_eq_false_iff_ne.mpr (by omega)
    simp only [isSpaceOrTab, Bool.or_eq_false_iff] at notBlank
    simp [passBlankLines, inside, notBlank, notBreak]
  | succ width ih =>
    have noMarker := atAnyMarker_cons (List.replicate width ' ' ++ t) (by decide : ' ' ≠ '-') (by decide)
    rw [List.replicate_succ, List.cons_append, passBlankLines, noMarker, Bool.and_false, if_neg (by decide),
      if_pos (by rfl), ih (column + 1) (by omega), Nat.add_right_comm]
    rfl

theorem passBlankLines_break (tabs : Bool) (column : Nat) {c : Char} (t : Text) (ends : isBreak c = true) :
    passBlankLines tabs column (c :: t) =
      { passBlankLines tabs 0 t with breaks := c :: (passBlankLines tabs 0 t).breaks } := by
  have noMarker : atAnyMarker (c :: t) = false := by
    rcases isBreak_cases ends with rfl | rfl | rfl <;> exact atAnyMarker_cons t (by decide) (by decide)
  have notBlank : (c == ' ' || (tabs && c == '\t')) = false := by
    rcases isBreak_cases ends with rfl | rfl | rfl <;> cases tabs <;> decide
  rw [passBlankLines, noMarker, Bool.and_false, if_neg (by decide), notBlank, if_neg (by decide), if_pos ends]

theorem length_passBlankLines_le (tabs : Bool) (column : Nat) (t : Text) :
    (passBlankLines tabs column t).rest.length ≤ t.length := by
  induction t generalizing column with
  | nil => exact Nat.le_refl _
  | cons c t ih =>
    unfold passBlankLines
    split
    · exact Nat.le_refl _
    split
    · exact Nat.le_succ_of_le (ih (column + 1))
    split
    · exact Nat.le_succ_of_le (ih 0)
    · exact Nat.le_refl _

end Playground.Yaml
