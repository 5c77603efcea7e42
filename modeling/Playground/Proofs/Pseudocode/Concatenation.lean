import Mathlib.Data.List.Chain
import Playground.Proofs.Nesting
import Playground.Proofs.Pseudocode.Lines

namespace Playground

namespace Text

theorem repeated_add (t : Text) (m n : Nat) : t.repeated (m + n) = t.repeated n ++ t.repeated m := by
  induction n with
  | zero => rfl
  | succ n ih => rw [← Nat.add_assoc, repeated, ih, repeated, List.append_assoc]

theorem joinWith_append (separator : Text) {xs ys : List Text} (left : xs ≠ []) (right : ys ≠ []) :
    joinWith separator (xs ++ ys) = joinWith separator xs ++ separator ++ joinWith separator ys := by
  induction xs with
  | nil => contradiction
  | cons x xs ih =>
    cases xs with
    | nil =>
      obtain ⟨y, ys, rfl⟩ := List.exists_cons_of_ne_nil right
      simp only [List.cons_append, List.nil_append, joinWith]
    | cons next xs =>
      have rest := ih (List.cons_ne_nil next xs)
      simp only [List.cons_append, joinWith] at rest ⊢
      simp only [rest, List.append_assoc]

end Text

namespace Pseudocode

/-- A line that stands deeper by an excess. Block ends have no text, and blank lines and comments are never
indented. -/
def Line.deepened (indentUnit : Text) (excess : Nat) (l : Line) : Line :=
  { l with
    depth := l.depth + excess
    text := match l.category with
      | .blockEnd | .blankOrComment => l.text
      | _ => l.text.map (indentUnit.repeated excess ++ ·) }

theorem Line.deepened_zero (indentUnit : Text) (l : Line) : l.deepened indentUnit 0 = l := by
  obtain ⟨category, depth, text⟩ := l
  cases category <;> cases text <;> rfl

theorem linesFrom_append (indentUnit : Text) (depth : Nat) (first second : List Statement) :
    linesFrom indentUnit depth (first ++ second) =
      linesFrom indentUnit depth first ++
        linesFrom indentUnit (Nesting.after depth (first.map (·.category))) second := by
  induction first generalizing depth with
  | nil => rfl
  | cons s first ih => rw [List.cons_append, linesFrom, ih, linesFrom, List.cons_append]; rfl

theorem pseudocode_add (indentUnit : Text) (depth excess : Nat) (s : Statement) :
    (⟨s.category, depth + excess, s.pseudocode indentUnit (depth + excess)⟩ : Line) =
      Line.deepened indentUnit excess ⟨s.category, depth, s.pseudocode indentUnit depth⟩ := by
  cases category : s.category <;>
    simp [Statement.pseudocode, Line.deepened, category, Text.repeated_add]

/-- Lines that start deeper stay deeper by an excess that shrinks from line to line. What the last line is left
with is left at the end, too. -/
theorem linesFrom_add (indentUnit : Text) (depth excess : Nat) (statements : List Statement) :
    ∃ excesses final, excesses.length = statements.length ∧
      linesFrom indentUnit (depth + excess) statements =
        List.zipWith (Line.deepened indentUnit) excesses (linesFrom indentUnit depth statements) ∧
      Nesting.after (depth + excess) (statements.map (·.category)) =
        Nesting.after depth (statements.map (·.category)) + final ∧
      (excess :: (excesses ++ [final])).IsChain (· ≥ ·) := by
  induction statements generalizing depth excess with
  | nil => exact ⟨[], excess, rfl, rfl, rfl, by simp⟩
  | cons s statements ih =>
    obtain ⟨kept, fewer, here⟩ := Nesting.enter_add s.category depth excess
    have next := Nesting.leave_add s.category (Nesting.enter s.category depth) kept
    obtain ⟨excesses, final, length, lines, after, shrinking⟩ :=
      ih (Nesting.leave s.category (Nesting.enter s.category depth)) kept
    refine ⟨kept :: excesses, final, by simp [length], ?_, ?_, ?_⟩
    · rw [linesFrom, linesFrom, List.zipWith_cons_cons, here, next, lines, pseudocode_add]
    · simp only [Nesting.after, List.map_cons, List.foldl_cons, Nesting.step, here, next] at after ⊢
      exact after
    · rw [List.cons_append, List.isChain_cons_cons]
      exact ⟨fewer, shrinking⟩

theorem ofSource_append (first second : Text) :
    Statement.ofSource (first ++ '\n' :: second) = Statement.ofSource first ++ Statement.ofSource second := by
  rw [Statement.ofSource, Text.lines, Text.splitBy_append_cons (by decide), List.map_append]
  rfl

theorem zipWith_deepened_zero (indentUnit : Text) {excesses : List Nat} {ls : List Line}
    (length : excesses.length = ls.length) (none : ∀ excess ∈ excesses, excess = 0) :
    List.zipWith (Line.deepened indentUnit) excesses ls = ls := by
  induction excesses generalizing ls with
  | nil => rw [List.zipWith_nil_left, List.eq_nil_of_length_eq_zero length.symm]
  | cons excess excesses ih =>
    obtain ⟨l, ls, rfl⟩ := List.exists_cons_of_length_eq_add_one length.symm
    rw [List.zipWith_cons_cons, none excess (by simp), Line.deepened_zero,
      ih (by simpa using length) fun other member => none other (by simp [member])]

/-- The pseudocode of two programs one behind the other is that of the first, and then that of the second with
each line deepened by an excess. The excesses start from what the first program leaves open, never grow, and the
last one bounds what is left open beyond what the second program leaves open itself. If the first program closes all
its blocks, the lines and texts are simply put together. -/
theorem Program.ofSource_concatenation (indentUnit first second : Text) :
    let a := Program.ofSource indentUnit first
    let b := Program.ofSource indentUnit second
    let whole := Program.ofSource indentUnit (first ++ '\n' :: second)
    a.lines.length = first.lines.length ∧
      (∃ excesses final, excesses.length = b.lines.length ∧
        whole.lines = a.lines ++ List.zipWith (Line.deepened indentUnit) excesses b.lines ∧
        whole.finalDepth = b.finalDepth + final ∧
        (a.finalDepth :: (excesses ++ [final])).IsChain (· ≥ ·)) ∧
      (a.finalDepth = 0 →
        whole.lines = a.lines ++ b.lines ∧ whole.finalDepth = b.finalDepth ∧
          ((∃ l ∈ a.lines, l.category ≠ .blockEnd) → (∃ l ∈ b.lines, l.category ≠ .blockEnd) →
            whole.text = a.text ++ '\n' :: b.text)) := by
  intro a b whole
  let statements := Statement.ofSource second
  obtain ⟨excesses, final, length, lines, after, shrinking⟩ := linesFrom_add indentUnit 0 a.finalDepth statements
  rw [Nat.zero_add] at lines after
  have length : excesses.length = b.lines.length := length.trans (length_linesFrom indentUnit 0 statements).symm
  have wholeLines : whole.lines = a.lines ++ List.zipWith (Line.deepened indentUnit) excesses b.lines := calc
    whole.lines = linesFrom indentUnit 0 (Statement.ofSource first ++ statements) :=
      congrArg (linesFrom indentUnit 0) (ofSource_append first second)
    _ = a.lines ++ linesFrom indentUnit a.finalDepth statements := linesFrom_append ..
    _ = a.lines ++ List.zipWith (Line.deepened indentUnit) excesses b.lines := congrArg (a.lines ++ ·) lines
  have wholeDepth : whole.finalDepth = b.finalDepth + final := calc
    whole.finalDepth = Nesting.after 0 ((Statement.ofSource first ++ statements).map (·.category)) := by
      rw [← ofSource_append]
      rfl
    _ = Nesting.after a.finalDepth (statements.map (·.category)) := by
      rw [List.map_append, Nesting.after, List.foldl_append]
      rfl
    _ = b.finalDepth + final := after
  refine ⟨?_, ⟨excesses, final, length, wholeLines, wholeDepth, shrinking⟩, ?_⟩
  · exact (length_linesFrom indentUnit 0 _).trans (Statement.length_ofSource first)
  · intro closed
    rw [closed, List.isChain_iff_pairwise, List.pairwise_cons] at shrinking
    have none : ∀ excess ∈ excesses ++ [final], excess = 0 :=
      fun excess member => Nat.le_zero.mp (shrinking.1 excess member)
    have plain : whole.lines = a.lines ++ b.lines := by
      rw [wholeLines, zipWith_deepened_zero indentUnit length fun excess member =>
        none excess (List.mem_append_left _ member)]
    refine ⟨plain, by rw [wholeDepth, none final (by simp), Nat.add_zero], ?_⟩
    rintro ⟨l, inFirst, notEnd⟩ ⟨m, inSecond, notEndEither⟩
    have joined := Text.joinWith_append ['\n'] (texts_ne_nil inFirst notEnd) (texts_ne_nil inSecond notEndEither)
    rw [List.append_assoc, List.singleton_append] at joined
    rw [Program.text, plain, List.filterMap_append]
    exact joined

/-- The first program closes the block that it opens; the second has an end too many. -/
theorem Program.ofSource_concatenation_closed :
    let first := "sus check a\nspill \"x\"\nend sus".toList
    let second := "end sus\nspill 1".toList
    let a := Program.ofSource defaultIndentUnit first
    let b := Program.ofSource defaultIndentUnit second
    a.finalDepth = 0 ∧ (∃ l ∈ a.lines, l.category ≠ .blockEnd) ∧ (∃ l ∈ b.lines, l.category ≠ .blockEnd) ∧
      (Program.ofSource defaultIndentUnit (first ++ '\n' :: second)).text = a.text ++ '\n' :: b.text := by
  intro first second a b
  have closed : a.finalDepth = 0 := by decide
  have left : ∃ l ∈ a.lines, l.category ≠ .blockEnd := by decide
  have right : ∃ l ∈ b.lines, l.category ≠ .blockEnd := by decide
  obtain ⟨_, _, simple⟩ := Program.ofSource_concatenation defaultIndentUnit first second
  exact ⟨closed, left, right, (simple closed).2.2 left right⟩

end Pseudocode

end Playground
