import Mathlib.Data.List.TakeWhile
import Playground.Markup.Escape
import Playground.Markup.Reference
import Playground.Proofs.Value.Steps

namespace Playground.Markup

theorem unescapeFrom_length (passed rest : Text) :
    unescapeFrom passed.length (passed ++ rest) = unescapeFrom 0 rest := by
  induction passed with
  | nil => rfl
  | cons c passed ih => rw [List.length_cons, List.cons_append, unescapeFrom, ih]

/-- A reference that is read whole is replaced by what it stands for. -/
theorem unescapeFrom_reference (name : Text) {rest meaning : Text}
    (read : reference? (name ++ rest) = .ok (some (meaning, name.length))) :
    unescapeFrom 0 ('&' :: name ++ rest) = (meaning ++ ·) <$> unescapeFrom 0 rest := by
  rw [List.cons_append, unescapeFrom, read, ← bind_pure_comp, ← unescapeFrom_length name rest]
  rfl

theorem unescapeFrom_escapeChar (c : Char) (rest : Text) :
    unescapeFrom 0 (escapeChar c ++ rest) = (c :: ·) <$> unescapeFrom 0 rest := by
  unfold escapeChar
  split
  -- The references are closed by their semicolons, so reading them does not look at the rest.
  · exact unescapeFrom_reference "amp;".toList rfl
  · exact unescapeFrom_reference "lt;".toList rfl
  · exact unescapeFrom_reference "gt;".toList rfl
  · exact unescapeFrom_reference "quot;".toList rfl
  · exact unescapeFrom_reference "#x27;".toList rfl
  · rename_i notAmp _ _ _ _
    rw [List.singleton_append, unescapeFrom, bind_pure_comp]
    exact notAmp

/-- Decoding gives back what was escaped, and then goes on behind it as from the start. -/
theorem unescape_escape_append (t rest : Text) : unescape (escape t ++ rest) = (t ++ ·) <$> unescape rest := by
  induction t with
  | nil => exact (id_map (unescape rest)).symm
  | cons c t ih =>
    rw [escape, List.flatMap_cons, unescape, List.append_assoc, unescapeFrom_escapeChar]
    calc
      (c :: ·) <$> unescapeFrom 0 (t.flatMap escapeChar ++ rest) = (c :: ·) <$> (t ++ ·) <$> unescape rest :=
        congrArg _ ih
      _ = (c :: t ++ ·) <$> unescape rest := (comp_map _ _ _).symm

theorem unescape_escape (t : Text) : unescape (escape t) = .ok t := by
  have alone := unescape_escape_append t []
  rw [List.append_nil] at alone
  exact alone.trans (congrArg Except.ok (List.append_nil t))

/-- No decimal reference in the text has more digits than a number is read from. -/
def IsDecodable (t : Text) : Prop :=
  ∀ before after, t = before ++ '&' :: '#' :: after → (after.takeWhile Char.isDigit).length ≤ Decimal.maxDigits

variable {t rest meaning : Text} {n : Nat} {c : Char}

theorem isDecodable_nil : IsDecodable [] := by
  intro before after split
  simp at split

theorem isDecodable_cons (other : c ≠ '&') : IsDecodable (c :: t) ↔ IsDecodable t := by
  constructor
  · rintro decodable before after rfl
    exact decodable (c :: before) after rfl
  · intro decodable before after split
    cases before with
    | nil => exact absurd (List.cons.inj split).1 other
    | cons d before => exact decodable before after (List.cons.inj split).2

theorem isDecodable_amp : IsDecodable ('&' :: rest) ↔
    (∀ after, rest = '#' :: after → (after.takeWhile Char.isDigit).length ≤ Decimal.maxDigits) ∧ IsDecodable rest := by
  constructor
  · intro decodable
    refine ⟨?_, ?_⟩
    · rintro after rfl
      exact decodable [] after rfl
    · rintro before after rfl
      exact decodable ('&' :: before) after rfl
  · rintro ⟨first, later⟩ before after split
    cases before with
    | nil => exact first after (List.cons.inj split).2
    | cons d before => exact later before after (List.cons.inj split).2

theorem hexValue?_amp : Text.hexValue? '&' = none := by decide

theorem not_mem_take_succ (notIn : '&' ∉ t.take n) (closed : (t.drop n).head? = some ';') : '&' ∉ t.take (n + 1) := by
  rw [List.head?_drop] at closed
  rw [List.take_add_one, closed, List.mem_append, not_or]
  exact ⟨notIn, by decide⟩

/-- No reference holds the ampersand of another one. -/
theorem not_mem_of_readNumeric? {base mark : Nat} (front : '&' ∉ t.take mark)
    (read : readNumeric? base mark t = some (meaning, n)) : '&' ∉ t.take n := by
  have inDigits : '&' ∉ (t.drop mark).takeWhile (isDigitOf base) := by
    intro member
    have digit := List.mem_takeWhile_imp member
    rw [isDigitOf, hexValue?_amp] at digit
    contradiction
  have digits := List.prefix_iff_eq_take.mp (List.takeWhile_prefix (isDigitOf base) (l := t.drop mark))
  unfold readNumeric? at read
  generalize (t.drop mark).takeWhile (isDigitOf base) = number at *
  have inNumber : '&' ∉ t.take (mark + number.length) := by
    rw [List.take_add, ← digits, List.mem_append, not_or]
    exact ⟨front, inDigits⟩
  simp only [Option.ite_none_left_eq_some, Option.some.injEq, Prod.mk.injEq] at read
  obtain ⟨_, _, length⟩ := read
  split at length
  · next closed =>
    obtain rfl := length
    exact not_mem_take_succ inNumber (beq_iff_eq.mp closed)
  · obtain rfl := length
    exact inNumber

theorem exists_cons_of_marked (marked : (t.head? == some 'x' || t.head? == some 'X') = true) :
    ∃ c rest, t = c :: rest ∧ (c = 'x' ∨ c = 'X') := by
  simp only [Bool.or_eq_true, beq_iff_eq, List.head?_eq_some_iff] at marked
  rcases marked with ⟨rest, rfl⟩ | ⟨rest, rfl⟩
  · exact ⟨_, rest, rfl, Or.inl rfl⟩
  · exact ⟨_, rest, rfl, Or.inr rfl⟩

theorem not_mem_of_numericReference? (read : numericReference? t = .ok (some (meaning, n))) : '&' ∉ t.take n := by
  rw [numericReference?] at read
  split at read
  · next marked =>
    refine not_mem_of_readNumeric? ?_ (Except.ok.inj read)
    obtain ⟨c, rest, rfl, mark⟩ := exists_cons_of_marked marked
    rcases mark with rfl | rfl
    · simp
    · simp
  · simp only at read
    split at read
    · contradiction
    · exact not_mem_of_readNumeric? List.not_mem_nil (Except.ok.inj read)

theorem le_of_openBeginning? {name : Text} {length : Nat} (found : openBeginning? name length = some (meaning, n)) :
    n ≤ length := by
  fun_induction openBeginning? name length with
  | case1 => contradiction
  | case2 => contradiction
  | case3 length _ other known =>
    obtain rfl := (Prod.mk.inj (Option.some.inj found)).2
    rfl
  | case4 length _ none ih => exact Nat.le_succ_of_le (ih found)

theorem not_mem_of_namedReference? (read : namedReference? t = some (meaning, n)) : '&' ∉ t.take n := by
  have inName : '&' ∉ (t.take maxNameLength).takeWhile isNameChar := by
    intro member
    exact absurd (List.mem_takeWhile_imp member) (by decide)
  have front : (t.take maxNameLength).takeWhile isNameChar <+: t :=
    (List.takeWhile_prefix _).trans (List.take_prefix _ _)
  rw [List.prefix_iff_eq_take] at front
  unfold namedReference? at read
  generalize (t.take maxNameLength).takeWhile isNameChar = name at *
  have inside (le : n ≤ name.length) : '&' ∉ t.take n := by
    intro member
    rw [front] at inName
    exact inName ((List.take_subset_take_left t le) member)
  simp only at read
  split at read
  · next closed =>
    split at read
    · obtain rfl := (Prod.mk.inj (Option.some.inj read)).2
      exact not_mem_take_succ (front ▸ inName) (beq_iff_eq.mp closed)
    · exact inside (le_of_openBeginning? read)
  · exact inside (le_of_openBeginning? read)

theorem not_mem_of_reference? (read : reference? t = .ok (some (meaning, n))) : '&' ∉ t.take n := by
  unfold reference? at read
  split at read
  · next rest =>
    obtain ⟨found, ofNumber, returned⟩ := bind_eq_ok_iff.mp read
    obtain ⟨⟨_, length⟩, isFound, same⟩ := Option.map_eq_some_iff.mp (Except.ok.inj returned)
    obtain rfl := (Prod.mk.inj same).2
    rw [isFound] at ofNumber
    rw [List.take_succ_cons, List.mem_cons, not_or]
    exact ⟨by decide, not_mem_of_numericReference? ofNumber⟩
  · exact not_mem_of_namedReference? (Except.ok.inj read)

/-- A number that is marked as hexadecimal starts with no decimal digit. -/
theorem exists_numericReference?_iff : (∃ found, numericReference? t = .ok found) ↔
    (t.takeWhile Char.isDigit).length ≤ Decimal.maxDigits := by
  rw [numericReference?]
  split
  · next marked =>
    have none : t.takeWhile Char.isDigit = [] := by
      obtain ⟨c, rest, rfl, mark⟩ := exists_cons_of_marked marked
      rcases mark with rfl | rfl <;> rfl
    rw [none]
    exact iff_of_true ⟨_, rfl⟩ (Nat.zero_le _)
  · by_cases many : Decimal.maxDigits < (t.takeWhile Char.isDigit).length
    · simp [many]
    · simp [many, Nat.not_lt.mp many]

theorem exists_reference?_iff : (∃ found, reference? t = .ok found) ↔
    ∀ after, t = '#' :: after → (after.takeWhile Char.isDigit).length ≤ Decimal.maxDigits := by
  unfold reference?
  split
  · next rest =>
    simp only [bind_eq_ok_iff, List.cons.injEq, true_and, forall_eq', ← exists_numericReference?_iff]
    exact ⟨fun ⟨_, found, read, _⟩ => ⟨found, read⟩, fun ⟨found, read⟩ => ⟨_, found, read, rfl⟩⟩
  · next other => exact iff_of_true ⟨_, rfl⟩ fun after same => absurd same (other after)

theorem exists_map_iff {x : Except Fault Text} {f : Text → Text} :
    (∃ raw, (do return f (← x)) = .ok raw) ↔ ∃ raw, x = .ok raw := by
  cases x <;> simp [bind, Except.bind, pure, Except.pure]

theorem exists_unescapeFrom_iff (passed : '&' ∉ t.take n) : (∃ raw, unescapeFrom n t = .ok raw) ↔ IsDecodable t := by
  fun_induction unescapeFrom n t with
  | case1 => exact iff_of_true ⟨_, rfl⟩ isDecodable_nil
  | case2 skip c rest ih =>
    rw [List.take_succ_cons, List.mem_cons, not_or] at passed
    rw [isDecodable_cons (Ne.symm passed.1)]
    exact ih passed.2
  | case3 rest ofLength ofNone =>
    rw [isDecodable_amp, ← exists_reference?_iff]
    cases read : reference? rest with
    | error fault => exact iff_of_false (by rintro ⟨_, _, _⟩) (by simp)
    | ok found =>
      rw [and_iff_right ⟨found, rfl⟩]
      cases found with
      | none => exact exists_map_iff.trans (ofNone List.not_mem_nil)
      | some reference =>
        obtain ⟨meaning, length⟩ := reference
        exact exists_map_iff.trans (ofLength length (not_mem_of_reference? read))
  | case4 c rest other ih =>
    rw [isDecodable_cons other]
    exact exists_map_iff.trans (ih List.not_mem_nil)

/-- A text is decoded unless a decimal reference in it has too many digits. -/
theorem exists_unescape_iff : (∃ raw, unescape t = .ok raw) ↔ IsDecodable t :=
  exists_unescapeFrom_iff List.not_mem_nil

end Playground.Markup
