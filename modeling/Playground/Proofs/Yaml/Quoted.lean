import Playground.Proofs.Yaml.Breaks
import Playground.Yaml.Token.Quoted

namespace Playground.Yaml

/-- From a text on, a quoted scalar goes on with that content up to its closing quote. -/
def Closes (double : Bool) (t content rest : Text) : Prop :=
  ∀ fuel, t.length ≤ fuel → readQuoted double fuel t = .ok (content, rest)

def quoteSign (double : Bool) : Char := if double then '"' else '\''

/-- Behind the blanks in front of it, the text goes on with something that is no line break. -/
def Steady (t : Text) : Prop := ∃ c more, t.dropWhile isSpaceOrTab = c :: more ∧ isBreak c = false

theorem Solid.steady {t : Text} (solid : Solid t) : Steady t := by
  obtain ⟨c, more, rfl, notBlank, notBreak⟩ := solid
  exact ⟨c, more, by simp [notBlank], notBreak⟩

theorem Steady.space {t : Text} (steady : Steady t) : Steady (' ' :: t) := by
  obtain ⟨c, more, next, notBreak⟩ := steady
  exact ⟨c, more, by rw [List.dropWhile_cons_of_pos (by decide), next], notBreak⟩

variable {double : Bool} {t content rest : Text}

/-- A quoted scalar is read step by step, and there are enough of them. -/
theorem closes_cons {c : Char}
    (step : ∀ fuel, t.length ≤ fuel → readQuoted double (fuel + 1) (c :: t) = .ok (content, rest)) :
    Closes double (c :: t) content rest := by
  intro fuel enough
  obtain ⟨fuel, rfl⟩ := Nat.exists_eq_succ_of_ne_zero (by simp at enough; omega : fuel ≠ 0)
  exact step fuel (by simpa using enough)

theorem closes_quote (rest : Text) (single : double = false → rest.head? ≠ some '\'') :
    Closes double (quoteSign double :: rest) [] rest := by
  refine closes_cons fun fuel _ => ?_
  cases double with
  | true => simp [readQuoted, quoteSign]
  | false => simp [readQuoted, quoteSign, single rfl]

theorem Closes.char {c : Char} (closes : Closes double t content rest) (notQuote : c ≠ quoteSign double)
    (notEscape : double = true → c ≠ '\\') (notBlank : isSpaceOrTab c = false) (notBreak : isBreak c = false) :
    Closes double (c :: t) (c :: content) rest := by
  refine closes_cons fun fuel enough => ?_
  have tail := closes fuel enough
  have quote : (c == if double then '"' else '\'') = false := beq_eq_false_iff_ne.mpr notQuote
  have escape : (double && c == '\\') = false := by simpa using notEscape
  simp only [readQuoted, quote, escape, notBlank, notBreak, Bool.or_self, Bool.false_eq_true, if_false, tail, bind,
    Except.bind, pure, Except.pure]

theorem Closes.doubled (closes : Closes false t content rest) :
    Closes false ('\'' :: '\'' :: t) ('\'' :: content) rest := by
  refine closes_cons fun fuel enough => ?_
  have tail := closes fuel (by simp at enough; omega)
  simp [readQuoted, tail, bind, Except.bind, pure, Except.pure]

theorem Closes.escape {written meaning : Text} (closes : Closes true t content rest)
    (escape : readEscape (written ++ t) = .ok (meaning, t)) :
    Closes true ('\\' :: written ++ t) (meaning ++ content) rest := by
  refine closes_cons fun fuel enough => ?_
  have tail := closes fuel (by simp at enough; omega)
  simp [readQuoted, escape, tail, bind, Except.bind, pure, Except.pure]

/-- What blanks and breaks consist of neither closes a scalar nor starts an escape. -/
theorem ne_sign_of_gap (double : Bool) {c : Char} (gap : isSpaceOrTab c = true ∨ isBreak c = true) :
    (c == if double then '"' else '\'') = false ∧ (double && c == '\\') = false := by
  have gap : (c = ' ' ∨ c = '\t') ∨ (c = '\n' ∨ c = '\u2028' ∨ c = '\u2029') :=
    gap.imp (by simp [isSpaceOrTab]) isBreak_cases
  rcases gap with (rfl | rfl) | rfl | rfl | rfl <;> cases double <;> decide

/-- A run of blanks is read at once, and kept if no line ends behind it. -/
theorem readQuoted_blanks {b c : Char} {u more : Text} (blank : isSpaceOrTab b = true)
    (ahead : u.dropWhile isSpaceOrTab = c :: more) (notBreak : isBreak c = false) (fuel : Nat) :
    readQuoted double (fuel + 1) (b :: u) =
      (readQuoted double fuel (c :: more)).map fun r => (b :: u.takeWhile isSpaceOrTab ++ r.1, r.2) := by
  obtain ⟨noQuote, noEscape⟩ := ne_sign_of_gap double (Or.inl blank)
  rw [readQuoted]
  simp only [noQuote, noEscape, blank, Bool.true_or, Bool.false_eq_true, if_false, if_true,
    List.takeWhile_cons_of_pos, List.dropWhile_cons_of_pos, ahead, notBreak]
  cases readQuoted double fuel (c :: more) <;> rfl

/-- A space is kept where no line ends behind it and the blanks that may follow. -/
theorem Closes.space (closes : Closes double t content rest) (steady : Steady t) :
    Closes double (' ' :: t) (' ' :: content) rest := by
  obtain ⟨c, more, next, notBreak⟩ := steady
  refine closes_cons fun fuel enough => ?_
  rw [readQuoted_blanks rfl next notBreak]
  cases t with
  | nil => contradiction
  | cons b u =>
    cases blank : isSpaceOrTab b with
    | false =>
      have here : b :: u = c :: more := by rwa [List.dropWhile_cons_of_neg (by simp [blank])] at next
      have tail := closes fuel enough
      rw [here] at tail
      rw [tail, List.takeWhile_cons_of_neg (by simp [blank])]
      rfl
    | true =>
      -- The run of blanks is read at once, with one blank more or less.
      rw [List.dropWhile_cons_of_pos blank] at next
      have tail := closes (fuel + 1) (by simp at enough ⊢; omega)
      rw [readQuoted_blanks blank next notBreak] at tail
      rw [List.takeWhile_cons_of_pos blank]
      cases read : readQuoted double fuel (c :: more) with
      | error fault => simp [read, Except.map] at tail
      | ok r =>
        rw [read] at tail
        obtain ⟨rfl, rfl⟩ := Prod.mk.inj (Except.ok.inj tail)
        rfl

/-- A line break is folded with the breaks of the blank lines behind it. -/
theorem Closes.fold {c : Char} {passage : Passage} (closes : Closes double passage.rest content rest)
    (ends : isBreak c = true) (passes : passBlankLines true 0 t = passage) (noMarker : passage.marker = false) :
    Closes double (c :: t) (Yaml.fold c passage.breaks ++ content) rest := by
  have shorter := length_passBlankLines_le true 0 t
  rw [passes] at shorter
  refine closes_cons fun fuel enough => ?_
  have tail := closes fuel (by omega)
  obtain ⟨noQuote, noEscape⟩ := ne_sign_of_gap double (Or.inr ends)
  have notBlank : isSpaceOrTab c = false := by
    rcases isBreak_cases ends with rfl | rfl | rfl <;> decide
  rw [readQuoted]
  simp only [noQuote, noEscape, ends, notBlank, Bool.or_true, Bool.false_eq_true, if_false, if_true,
    List.dropWhile_cons_of_neg, not_false_eq_true, passes, noMarker, tail, bind, Except.bind, pure, Except.pure]

end Playground.Yaml
