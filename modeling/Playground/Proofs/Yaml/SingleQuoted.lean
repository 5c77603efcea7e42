import Playground.Proofs.Yaml.Quoted
import Playground.Yaml.Scalar

namespace Playground.Yaml

/-- Whether a text starts with a line end. -/
def startsWithEnd (t : Text) : Bool := t.head?.any endsLine

/-- What single quotes give back of a text. A next-line character comes back as a line feed. One that starts a run of
line ends folds like a lone line feed: into a space if it is the only one, and else into nothing. -/
def unquoted (afterEnd : Bool) : Text → Text
  | [] => []
  | c :: rest =>
    (if c == '\u0085' && !afterEnd then if startsWithEnd rest then [] else [' '] else [unified c]) ++
      unquoted (endsLine c) rest

theorem next_line_not_mem_unquoted (afterEnd : Bool) (t : Text) : '\u0085' ∉ unquoted afterEnd t := by
  induction t generalizing afterEnd with
  | nil => simp [unquoted]
  | cons c t ih =>
    have other := unified_ne c
    rw [unquoted, List.mem_append, not_or]
    refine ⟨?_, ih _⟩
    split
    · split <;> simp
    · simpa using other.symm

/-- A text comes back as it was exactly if it has no next-line character. -/
theorem unquoted_eq_self_iff {t : Text} : unquoted false t = t ↔ '\u0085' ∉ t := by
  constructor
  · intro same
    rw [← same]
    exact next_line_not_mem_unquoted false t
  · have keeps (afterEnd : Bool) (none : '\u0085' ∉ t) : unquoted afterEnd t = t := by
      induction t generalizing afterEnd with
      | nil => rfl
      | cons c t ih =>
        rw [List.mem_cons, not_or] at none
        have other : (c == '\u0085') = false := beq_eq_false_iff_ne.mpr (Ne.symm none.1)
        rw [unquoted, other, Bool.false_and, if_neg (by decide), unified_of_ne (Ne.symm none.1), ih _ none.2]
        rfl
    exact keeps false

theorem isBreak_unified {c : Char} (ends : endsLine c = true) : isBreak (unified c) = true := by
  by_cases next : c = '\u0085'
  · rw [next]
    rfl
  · have feed : c = '\n' ∨ isBreak c = true := by simpa [endsLine, next] using ends
    rw [unified_of_ne next]
    rcases feed with rfl | breaks
    · rfl
    · exact breaks

/-- A character that needs no escape and ends no line is read as it is. -/
theorem of_not_endsLine {c : Char} (clean : needsEscape c = false) (inside : endsLine c = false) :
    unified c = c ∧ isBreak c = false ∧ (c ≠ ' ' → isSpaceOrTab c = false) := by
  simp only [endsLine, Bool.or_eq_false_iff, beq_eq_false_iff_ne] at inside
  refine ⟨unified_of_ne inside.1.2, inside.2, ?_⟩
  intro notSpace
  have notTab : c ≠ '\t' := by
    rintro rfl
    contradiction
  simp [isSpaceOrTab, notSpace, notTab]

/-- What follows a line end: the next one, or the indentation of the line that starts. -/
def afterEnd (indent : Nat) (t : Text) : Text :=
  (if startsWithEnd t then [] else List.replicate indent ' ') ++ singleFrom indent .lineEnd indent t

section
variable (indent : Nat) (before : Before) (column : Nat) {c : Char} (t : Text)

theorem singleFrom_end (ends : endsLine c = true) :
    singleFrom indent before column (c :: t) =
      (if before != .lineEnd && c == '\n' then ['\n'] else []) ++ c :: afterEnd indent t := by
  have notSpace : (c == ' ') = false := by
    refine beq_eq_false_iff_ne.mpr ?_
    rintro rfl
    contradiction
  rw [singleFrom.eq_def]
  simp only [notSpace, Bool.false_eq_true, if_false, ends, if_true, afterEnd, List.append_assoc, List.cons_append]
  cases t <;> rfl

theorem singleFrom_space :
    singleFrom indent before column (' ' :: t) =
      if before == .other && t.head? != some ' ' && !t.isEmpty && lineWidth < column then
        newLine indent ++ singleFrom indent .space indent t
      else ' ' :: singleFrom indent .space (column + 1) t := by
  rfl

theorem singleFrom_quote :
    singleFrom indent before column ('\'' :: t) = '\'' :: '\'' :: singleFrom indent .other (column + 2) t := by
  rfl

theorem singleFrom_other (notSpace : c ≠ ' ') (inside : endsLine c = false) (notQuote : c ≠ '\'') :
    singleFrom indent before column (c :: t) = c :: singleFrom indent .other (column + 1) t := by
  rw [singleFrom.eq_def]
  simp [notSpace, inside, notQuote]

end

theorem solid_singleFrom (indent : Nat) (before : Before) (column : Nat) {t : Text} (rest : Text)
    (clean : ∀ c ∈ t, needsEscape c = false) (notSpace : t.head? ≠ some ' ') (inside : startsWithEnd t = false) :
    Solid ((singleFrom indent before column t).map unified ++ rest) := by
  cases t with
  | nil => exact ⟨'\'', rest, rfl, by decide, by decide⟩
  | cons c t =>
    have other : c ≠ ' ' := by simpa using notSpace
    obtain ⟨same, notBreak, blankOnly⟩ := of_not_endsLine (clean c (by simp)) (by simpa [startsWithEnd] using inside)
    by_cases quote : c = '\''
    · subst quote
      exact ⟨'\'', _, rfl, by decide, by decide⟩
    · rw [singleFrom_other indent before column t other (by simpa [startsWithEnd] using inside) quote, List.map_cons,
        same]
      exact ⟨c, _, rfl, blankOnly other, notBreak⟩

/-- A space and a line end never stand side by side. -/
theorem of_hasSpaceAtBreak {c : Char} {t : Text} (apart : hasSpaceAtBreak (c :: t) = false) :
    (c = ' ' → startsWithEnd t = false) ∧ (endsLine c = true → t.head? ≠ some ' ') ∧ hasSpaceAtBreak t = false := by
  cases t with
  | nil => simp [startsWithEnd, hasSpaceAtBreak]
  | cons d t =>
    simp only [hasSpaceAtBreak, Bool.or_eq_false_iff, Bool.and_eq_false_iff, beq_eq_false_iff_ne] at apart
    obtain ⟨⟨notBefore, notAfter⟩, rest⟩ := apart
    refine ⟨?_, ?_, rest⟩
    · rintro rfl
      simpa [startsWithEnd] using notBefore
    · intro ends
      simpa [ends] using notAfter

theorem steady_singleFrom (indent column : Nat) {t : Text} (rest : Text) (clean : ∀ c ∈ t, needsEscape c = false)
    (inside : startsWithEnd t = false) (apart : hasSpaceAtBreak t = false) :
    Steady ((singleFrom indent .space column t).map unified ++ rest) := by
  induction t generalizing column with
  | nil => exact (solid_singleFrom indent .space column rest clean (by simp) inside).steady
  | cons c t ih =>
    by_cases space : c = ' '
    · subst space
      obtain ⟨insideTail, _, apartTail⟩ := of_hasSpaceAtBreak apart
      have tail := ih (column + 1) (fun d member => clean d (List.mem_cons_of_mem _ member)) (insideTail rfl) apartTail
      exact tail.space
    · exact (solid_singleFrom indent .space column rest clean (by simpa using space) inside).steady

theorem unquoted_cons_inside {c : Char} (inside : endsLine c = false) (afterEnd : Bool) (t : Text) :
    unquoted afterEnd (c :: t) = c :: unquoted false t := by
  have other : c ≠ '\u0085' := by
    rintro rfl
    contradiction
  simp [unquoted, other, inside]

theorem unquoted_cons_end {c : Char} (ends : endsLine c = true) (t : Text) :
    unquoted true (c :: t) = unified c :: unquoted true t := by
  simp [unquoted, ends]

/-- Behind a line end the reader passes the further line ends and the indentation, and then goes on. -/
def ReadsOn (indent : Nat) (t rest : Text) : Prop :=
  ∃ breaks t' content, passBlankLines true 0 ((afterEnd indent t).map unified ++ rest) = ⟨breaks, false, indent, t'⟩ ∧
    Closes false t' content rest ∧ breaks ++ content = unquoted true t ∧ (breaks = [] ↔ startsWithEnd t = false)

/-- A run of line ends, as far as it is still to be read, and what follows it. -/
theorem ReadsOn.closes {indent : Nat} {t rest : Text} {c : Char} (on : ReadsOn indent t rest)
    (ends : endsLine c = true) :
    Closes false (((if c == '\n' then ['\n'] else []) ++ c :: afterEnd indent t).map unified ++ rest)
      (unquoted false (c :: t)) rest := by
  obtain ⟨breaks, t', content, passes, closes, reads, last⟩ := on
  have step := passBlankLines_break true 0 ((afterEnd indent t).map unified ++ rest) (isBreak_unified ends)
  rw [passes] at step
  rw [unquoted, ends, ← reads]
  by_cases feed : c = '\n'
  · subst feed
    have folded := closes.fold isBreak_feed step rfl
    simpa [fold, unified] using folded
  · have folded := closes.fold (isBreak_unified ends) passes rfl
    have written : ((if c == '\n' then ['\n'] else []) ++ c :: afterEnd indent t).map unified ++ rest =
        unified c :: ((afterEnd indent t).map unified ++ rest) := by
      simp [feed]
    rw [written]
    by_cases next : c = '\u0085'
    · subst next
      cases more : startsWithEnd t with
      | false => simpa [fold, unified, last.mpr more] using folded
      | true =>
        have some : breaks ≠ [] := fun none => by simp [last.mp none] at more
        simpa [fold, unified, some] using folded
    · rw [unified_of_ne next] at folded ⊢
      simpa [fold, feed, next] using folded

/-- Another line end is passed over like the ones before it. -/
theorem ReadsOn.cons {indent : Nat} {t rest : Text} {c : Char} (on : ReadsOn indent t rest) (ends : endsLine c = true) :
    ReadsOn indent (c :: t) rest := by
  obtain ⟨breaks, t', content, passes, closes, reads, _⟩ := on
  have step := passBlankLines_break true 0 ((afterEnd indent t).map unified ++ rest) (isBreak_unified ends)
  rw [passes] at step
  have written : afterEnd indent (c :: t) = c :: afterEnd indent t := by
    rw [afterEnd, singleFrom_end indent .lineEnd indent t ends]
    simp [startsWithEnd, ends]
  have more : unquoted true (c :: t) = unified c :: breaks ++ content := by
    rw [unquoted_cons_end ends, ← reads, List.cons_append]
  refine ⟨unified c :: breaks, t', content, ?_, closes, more.symm, by simp [startsWithEnd, ends]⟩
  rw [written]
  exact step

/-- Behind the last line end comes the indentation, and then the text goes on. -/
theorem ReadsOn.start {indent : Nat} (positive : 0 < indent) {t rest : Text} (inside : startsWithEnd t = false)
    (solid : Solid ((singleFrom indent .lineEnd indent t).map unified ++ rest))
    (closes : Closes false ((singleFrom indent .lineEnd indent t).map unified ++ rest) (unquoted false t) rest) :
    ReadsOn indent t rest := by
  have passes := passBlankLines_indentation true 0 indent (by omega) solid
  have same : unquoted false t = unquoted true t := by
    cases t with
    | nil => rfl
    | cons c t =>
      have inside : endsLine c = false := by simpa [startsWithEnd] using inside
      rw [unquoted_cons_inside inside, unquoted_cons_inside inside]
  refine ⟨[], _, _, ?_, closes, same, by simp [inside]⟩
  simpa [afterEnd, inside] using passes

/-- A character inside a line comes back; a lone space may have become a line break. -/
theorem closes_singleFrom_inside {indent : Nat} (positive : 0 < indent) {c : Char} {t rest : Text}
    (clean : ∀ d ∈ c :: t, needsEscape d = false) (apart : hasSpaceAtBreak (c :: t) = false)
    (inside : endsLine c = false)
    (later : ∀ before column, (before = .lineEnd → startsWithEnd t = false) →
      Closes false ((singleFrom indent before column t).map unified ++ rest) (unquoted false t) rest)
    (before : Before) (column : Nat) :
    Closes false ((singleFrom indent before column (c :: t)).map unified ++ rest) (unquoted false (c :: t)) rest := by
  obtain ⟨insideTail, _, apartTail⟩ := of_hasSpaceAtBreak apart
  have cleanTail : ∀ d ∈ t, needsEscape d = false := fun d member => clean d (List.mem_cons_of_mem _ member)
  obtain ⟨same, notBreak, blankOnly⟩ := of_not_endsLine (clean c List.mem_cons_self) inside
  rw [unquoted_cons_inside inside]
  by_cases space : c = ' '
  · subst space
    rw [singleFrom_space]
    split
    · rename_i breaks
      simp only [Bool.and_eq_true, bne_iff_ne] at breaks
      have solid := solid_singleFrom indent .space indent rest cleanTail breaks.1.1.2 (insideTail rfl)
      have passes := passBlankLines_indentation true 0 indent (by omega) solid
      have folded := (later .space indent (by simp)).fold isBreak_feed passes rfl
      simpa [newLine, fold] using folded
    · have steady := steady_singleFrom indent (column + 1) rest cleanTail (insideTail rfl) apartTail
      exact (later .space (column + 1) (by simp)).space steady
  by_cases quote : c = '\''
  · subst quote
    rw [singleFrom_quote]
    exact (later .other (column + 2) (by simp)).doubled
  · rw [singleFrom_other indent before column t space inside quote, List.map_cons, same]
    exact (later .other (column + 1) (by simp)).char quote (by simp) (blankOnly space) notBreak

/-- Single quotes give a text back, save for next-line characters, if no space stands beside a line end. -/
theorem closes_singleFrom {indent : Nat} (positive : 0 < indent) (t : Text) {rest : Text}
    (follows : rest.head? ≠ some '\'') (clean : ∀ c ∈ t, needsEscape c = false) (apart : hasSpaceAtBreak t = false) :
    (∀ before column, (before = .lineEnd → startsWithEnd t = false) →
      Closes false ((singleFrom indent before column t).map unified ++ rest) (unquoted false t) rest) ∧
    (t.head? ≠ some ' ' → ReadsOn indent t rest) := by
  induction t with
  | nil =>
    have close : Closes false ('\'' :: rest) [] rest := closes_quote rest fun _ => follows
    exact ⟨fun _ _ _ => close, fun _ => .start positive rfl ⟨'\'', rest, rfl, by decide, by decide⟩ close⟩
  | cons c t ih =>
    obtain ⟨_, noSpaceTail, apartTail⟩ := of_hasSpaceAtBreak apart
    obtain ⟨ih, ihOn⟩ := ih (fun d member => clean d (List.mem_cons_of_mem _ member)) apartTail
    cases ends : endsLine c with
    | true =>
      have on := ihOn (noSpaceTail ends)
      refine ⟨?_, fun _ => on.cons ends⟩
      intro before column first
      have notEnd : (before != .lineEnd) = true := by
        rw [bne_iff_ne]
        intro same
        simpa [startsWithEnd, ends] using first same
      rw [singleFrom_end indent before column t ends, notEnd, Bool.true_and]
      exact on.closes ends
    | false =>
      have closes := closes_singleFrom_inside positive clean apart ends ih
      have inside : startsWithEnd (c :: t) = false := by simpa [startsWithEnd] using ends
      refine ⟨fun before column _ => closes before column, fun notSpace => ?_⟩
      have solid := solid_singleFrom indent .lineEnd indent rest clean notSpace inside
      exact .start positive inside solid (closes .lineEnd indent)

/-- Single quotes add only line breaks, spaces and quotes to a text. -/
theorem mem_singleFrom {indent : Nat} {before : Before} {column : Nat} {t : Text} {c : Char}
    (member : c ∈ singleFrom indent before column t) : c ∈ t ∨ c = '\n' ∨ c = ' ' ∨ c = '\'' := by
  induction t generalizing before column with
  | nil =>
    have quote : c = '\'' := by simpa [singleFrom] using member
    simp [quote]
  | cons d t ih =>
    have later {before : Before} {column : Nat} (inTail : c ∈ singleFrom indent before column t) :
        c ∈ d :: t ∨ c = '\n' ∨ c = ' ' ∨ c = '\'' := (ih inTail).imp_left (List.mem_cons_of_mem d)
    by_cases space : d = ' '
    · subst space
      rw [singleFrom_space] at member
      split at member
      · simp only [newLine, List.cons_append, List.mem_cons, List.mem_append, List.mem_replicate] at member
        rcases member with rfl | ⟨_, rfl⟩ | inTail
        · simp
        · simp
        · exact later inTail
      · rcases List.mem_cons.mp member with rfl | inTail
        · simp
        · exact later inTail
    by_cases ends : endsLine d = true
    · rw [singleFrom_end indent before column t ends, afterEnd] at member
      simp only [List.mem_append, List.mem_cons] at member
      rcases member with extra | rfl | indentation | inTail
      · split at extra
        · simp_all
        · contradiction
      · simp
      · split at indentation
        · contradiction
        · simp_all
      · exact later inTail
    by_cases quote : d = '\''
    · subst quote
      rw [singleFrom_quote, List.mem_cons, List.mem_cons] at member
      rcases member with rfl | rfl | inTail
      · simp
      · simp
      · exact later inTail
    · rw [singleFrom_other indent before column t space (by simpa using ends) quote, List.mem_cons] at member
      rcases member with rfl | inTail
      · simp
      · exact later inTail

/-- What holds of a text that is written in single quotes. -/
theorem of_singleQuoted {t : Text} (style : ScalarStyle.ofText t = .singleQuoted) :
    (∀ c ∈ t, needsEscape c = false) ∧ hasSpaceAtBreak t = false := by
  simp only [ScalarStyle.ofText] at style
  split at style
  · contradiction
  · split at style
    · rename_i quotable
      simpa using quotable
    · contradiction

end Playground.Yaml
