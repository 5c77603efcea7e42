import Playground.Proofs.Pseudocode.Correspondence
import Playground.Proofs.Settings.Usable
import Playground.Proofs.Text.Flush
import Playground.Session

namespace Playground

namespace Text

theorem repeated_nil (n : Nat) : repeated [] n = [] := by
  induction n with
  | zero => rfl
  | succ n ih => rw [repeated, ih, List.append_nil]

theorem length_lines (t : Text) : t.lines.length = t.count '\n' + 1 := by
  rw [lines]
  induction t with
  | nil => rfl
  | cons c t ih =>
    rw [splitBy, List.count_cons]
    split
    · rw [List.length_cons, ih]
    · cases pieces : splitBy (· == '\n') t with
      | nil => exact absurd pieces (splitBy_ne_nil _ t)
      | cons first more =>
        rw [pieces] at ih
        exact ih

theorem count_unlines (ls : List Text) :
    (unlines ls).count '\n' = (ls.map (·.count '\n')).sum + (ls.length - 1) := by
  induction ls with
  | nil => rfl
  | cons l ls ih =>
    cases ls with
    | nil => rw [unlines, joinWith, List.map_singleton, List.sum_singleton, List.length_singleton, Nat.add_zero]
    | cons next rest =>
      rw [unlines] at ih
      rw [unlines, joinWith, List.count_append, List.count_append, ih]
      simp only [List.map_cons, List.sum_cons, List.length_cons, List.count_singleton_self]
      omega

theorem count_repeated (t : Text) (c : Char) (n : Nat) : (t.repeated n).count c = t.count c * n := by
  induction n with
  | zero => rfl
  | succ n ih => rw [repeated, List.count_append, ih, Nat.mul_succ, Nat.add_comm]

end Text

/-- Whether the lines of a category are indented: block ends have no text, and blank lines and comments are kept. -/
def Category.isIndented : Category → Bool
  | .blockEnd | .blankOrComment => false
  | _ => true

/-- What stands in front of a line at a depth. -/
def Category.indentation (indentUnit : Text) (depth : Nat) (c : Category) : Text :=
  if c.isIndented then indentUnit.repeated depth else []

theorem Category.indentation_nil (depth : Nat) (c : Category) : c.indentation [] depth = [] := by
  rw [indentation, Text.repeated_nil, ite_self]

/-- The indentation stands in front of what the line would be without it. -/
theorem Statement.pseudocode_eq (indentUnit : Text) (depth : Nat) (s : Statement) :
    s.pseudocode indentUnit depth =
      (s.pseudocode [] depth).map (s.category.indentation indentUnit depth ++ ·) := by
  rw [pseudocode, pseudocode, Category.indentation, Text.repeated_nil]
  cases s.category <;> rfl

theorem Text.allBlank_indentation {indentUnit : Text} (blank : indentUnit.allBlank = true) (depth : Nat)
    (c : Category) : (c.indentation indentUnit depth).allBlank = true := by
  rw [Category.indentation]
  split
  · exact allBlank_repeated blank depth
  · rfl

namespace Pseudocode

/-- How often the unit of indentation stands in the texts of lines. -/
def units (ls : List Line) : Nat := ((ls.filter (·.category.isIndented)).map (·.depth)).sum

theorem units_linesFrom_cons (indentUnit : Text) (depth : Nat) (s : Statement) (statements : List Statement) :
    units (linesFrom indentUnit depth (s :: statements)) =
      (if s.category.isIndented then Nesting.enter s.category depth else 0) +
        units (linesFrom indentUnit (Nesting.step depth s.category) statements) := by
  rw [units, linesFrom, List.filter_cons]
  split
  · rfl
  · rw [Nat.zero_add]
    rfl

theorem units_linesFrom (indentUnit other : Text) (depth : Nat) (statements : List Statement) :
    units (linesFrom indentUnit depth statements) = units (linesFrom other depth statements) := by
  induction statements generalizing depth with
  | nil => rfl
  | cons s statements ih => rw [units_linesFrom_cons, units_linesFrom_cons, ih]

/-- The texts of the lines of statements. -/
def textsFrom (indentUnit : Text) (depth : Nat) (statements : List Statement) : List Text :=
  (linesFrom indentUnit depth statements).filterMap (·.text)

theorem textsFrom_cons (indentUnit : Text) (depth : Nat) (s : Statement) (statements : List Statement) :
    textsFrom indentUnit depth (s :: statements) =
      ((s.pseudocode [] (Nesting.enter s.category depth)).map
          (s.category.indentation indentUnit (Nesting.enter s.category depth) ++ ·)).toList ++
        textsFrom indentUnit (Nesting.step depth s.category) statements := by
  rw [textsFrom, linesFrom, List.filterMap_cons, ← Statement.pseudocode_eq]
  cases s.pseudocode indentUnit (Nesting.enter s.category depth) <;> rfl

theorem length_textsFrom (indentUnit : Text) (depth : Nat) (statements : List Statement) :
    (textsFrom indentUnit depth statements).length = (textsFrom [] depth statements).length := by
  induction statements generalizing depth with
  | nil => rfl
  | cons s statements ih =>
    rw [textsFrom_cons, textsFrom_cons, List.length_append, List.length_append, ih]
    cases s.pseudocode [] (Nesting.enter s.category depth) <;> rfl

theorem count_indentation (indentUnit : Text) (depth : Nat) (c : Category) :
    (c.indentation indentUnit depth).count '\n' = indentUnit.count '\n' * if c.isIndented then depth else 0 := by
  rw [Category.indentation]
  split
  · exact Text.count_repeated indentUnit '\n' depth
  · rfl

/-- The texts hold as many line feeds as without indentation, and those of the indentation as often as it stands in
them. -/
theorem count_textsFrom (indentUnit : Text) (depth : Nat) (statements : List Statement) :
    ((textsFrom indentUnit depth statements).map (·.count '\n')).sum =
      ((textsFrom [] depth statements).map (·.count '\n')).sum +
        indentUnit.count '\n' * units (linesFrom indentUnit depth statements) := by
  induction statements generalizing depth with
  | nil => rfl
  | cons s statements ih =>
    have later := ih (Nesting.step depth s.category)
    have here := count_indentation indentUnit (Nesting.enter s.category depth) s.category
    rw [textsFrom_cons, textsFrom_cons, units_linesFrom_cons, Nat.mul_add, List.map_append, List.map_append,
      List.sum_append, List.sum_append, later]
    cases text : s.pseudocode [] (Nesting.enter s.category depth) with
    | none =>
      -- Only a block end has no text, and it is not indented either.
      have ends := (Line.text_ofStatement_eq_none_iff [] s (Nesting.enter s.category depth)).mp text
      simp [ends, Category.isIndented]
    | some t =>
      simp only [Option.map_some, Option.toList_some, List.map_singleton, List.sum_singleton, List.count_append, here,
        Category.indentation_nil, List.nil_append]
      omega

theorem map_trimStart_textsFrom {indentUnit : Text} (blank : indentUnit.allBlank = true) (depth : Nat)
    (statements : List Statement) :
    (textsFrom indentUnit depth statements).map Text.trimStart =
      (textsFrom [] depth statements).map Text.trimStart := by
  induction statements generalizing depth with
  | nil => rfl
  | cons s statements ih =>
    rw [textsFrom_cons, textsFrom_cons, List.map_append, List.map_append, ih]
    cases s.pseudocode [] (Nesting.enter s.category depth) with
    | none => rfl
    | some t =>
      have front := Text.allBlank_indentation blank (Nesting.enter s.category depth) s.category
      simp only [Option.map_some, Option.toList_some, List.map_singleton, Category.indentation_nil, List.nil_append,
        Text.trimStart, List.dropWhile_append_of_pos (List.all_eq_true.mp front)]

/-- Lines that are all at the outermost level are not indented. -/
theorem textsFrom_of_units_eq_zero {indentUnit : Text} {depth : Nat} {statements : List Statement}
    (outermost : units (linesFrom indentUnit depth statements) = 0) :
    textsFrom indentUnit depth statements = textsFrom [] depth statements := by
  induction statements generalizing depth with
  | nil => rfl
  | cons s statements ih =>
    rw [units_linesFrom_cons, Nat.add_eq_zero_iff] at outermost
    obtain ⟨here, later⟩ := outermost
    have none : s.category.indentation indentUnit (Nesting.enter s.category depth) = [] := by
      rw [Category.indentation]
      split
      · next indented =>
        rw [if_pos indented] at here
        rw [here, Text.repeated]
      · rfl
    rw [textsFrom_cons, textsFrom_cons, none, Category.indentation_nil, ih later]

theorem Program.text_ofSource (indentUnit source : Text) :
    (Program.ofSource indentUnit source).text = Text.unlines (textsFrom indentUnit 0 (Statement.ofSource source)) :=
  rfl

theorem Program.length_lines_text (indentUnit source : Text) :
    (Program.ofSource indentUnit source).text.lines.length =
      (Program.ofSource [] source).text.lines.length +
        indentUnit.count '\n' * units (Program.ofSource indentUnit source).lines := by
  have count := count_textsFrom indentUnit 0 (Statement.ofSource source)
  have length := length_textsFrom indentUnit 0 (Statement.ofSource source)
  rw [Text.length_lines, Text.length_lines, Program.text_ofSource, Program.text_ofSource, Text.count_unlines,
    Text.count_unlines, count, length]
  simp only [Program.ofSource]
  omega

theorem single_of_mem_textsFrom {indentUnit source t : Text} (single : '\n' ∉ indentUnit)
    (isText : t ∈ textsFrom indentUnit 0 (Statement.ofSource source)) : '\n' ∉ t := by
  obtain ⟨l, member, text⟩ := List.mem_filterMap.mp isText
  exact not_mem_text single member text

theorem Program.map_trimStart_lines {indentUnit : Text} (single : '\n' ∉ indentUnit)
    (blank : indentUnit.allBlank = true) (source : Text) :
    (Program.ofSource indentUnit source).text.lines.map Text.trimStart =
      (Program.ofSource [] source).text.lines.map Text.trimStart := by
  have trimmed := map_trimStart_textsFrom blank 0 (Statement.ofSource source)
  have length := length_textsFrom indentUnit 0 (Statement.ofSource source)
  rw [Program.text_ofSource, Program.text_ofSource]
  by_cases none : textsFrom [] 0 (Statement.ofSource source) = []
  · rw [none, List.length_nil] at length
    rw [none, List.eq_nil_of_length_eq_zero length]
  · have some : textsFrom indentUnit 0 (Statement.ofSource source) ≠ [] := by
      rintro empty
      rw [empty] at length
      exact none (List.eq_nil_of_length_eq_zero length.symm)
    rw [Text.lines_unlines some fun t => single_of_mem_textsFrom single,
      Text.lines_unlines none fun t => single_of_mem_textsFrom List.not_mem_nil, trimmed]

/-- Up to the blanks in front of its lines a program reads as without indentation, exactly if the indentation holds no
line feed or does not occur. -/
theorem Program.map_trimStart_lines_iff {indentUnit : Text} (blank : indentUnit.allBlank = true) (source : Text) :
    (Program.ofSource indentUnit source).text.lines.map Text.trimStart =
        (Program.ofSource [] source).text.lines.map Text.trimStart ↔
      '\n' ∉ indentUnit ∨ units (Program.ofSource indentUnit source).lines = 0 := by
  constructor
  · intro same
    have length := congrArg List.length same
    rw [List.length_map, List.length_map, Program.length_lines_text] at length
    rw [← List.count_eq_zero]
    exact Nat.mul_eq_zero.mp (by omega)
  · rintro (single | outermost)
    · exact map_trimStart_lines single blank source
    · rw [Program.text_ofSource, textsFrom_of_units_eq_zero outermost, ← Program.text_ofSource]

end Pseudocode

namespace Settings

open Pseudocode

/-- The indentation of the settings changes neither the depth at the end nor the output. The pseudocode has as many more
lines as its units of indentation hold line feeds. Its lines are the same up to the blanks in front of them exactly if
the unit holds none, or if no line is indented. -/
theorem indentation_only_unless_line_feeds {v : Value} {s : Settings} (taken : ofValue v = .ok s) (source : Text) :
    let own := (Session.start s).run source
    let plain := (Session.start .standard).run source
    own.program.finalDepth = plain.program.finalDepth ∧ own.records = plain.records ∧
      own.program.text.lines.length =
        plain.program.text.lines.length + s.indentUnit.count '\n' * units plain.program.lines ∧
      (own.program.text.lines.map Text.trimStart = plain.program.text.lines.map Text.trimStart ↔
        '\n' ∉ s.indentUnit ∨ units plain.program.lines = 0) := by
  intro own plain
  have blank := (indentation_of_ofValue taken).2
  have standardSingle : '\n' ∉ defaultIndentUnit := by decide
  have sameUnits : units own.program.lines = units plain.program.lines :=
    units_linesFrom s.indentUnit defaultIndentUnit 0 (Statement.ofSource source)
  have plainLines : plain.program.text.lines.map Text.trimStart =
      (Program.ofSource [] source).text.lines.map Text.trimStart :=
    Program.map_trimStart_lines standardSingle (by decide) source
  have plainLength : plain.program.text.lines.length = (Program.ofSource [] source).text.lines.length := by
    rw [← List.length_map (f := Text.trimStart), plainLines, List.length_map]
  refine ⟨rfl, rfl, ?_, ?_⟩
  · rw [plainLength, ← sameUnits]
    exact Program.length_lines_text s.indentUnit source
  · rw [plainLines, ← sameUnits]
    exact Program.map_trimStart_lines_iff blank source

/-- A line feed for indentation puts an indented line on a line of its own, behind an empty one. -/
theorem indentation_only_unless_line_feeds_line_feed :
    let source := "sus check a\nspill \"x\"\nend sus".toList
    ∃ s, ofValue (.map [(.str "indent_unit".toList, .str ['\n'])]) = .ok s ∧
      ((Session.start s).run source).program.text = "if a:\n\nprint(\"x\")".toList ∧
      ((Session.start s).run source).program.text.lines.map Text.trimStart ≠
        ((Session.start .standard).run source).program.text.lines.map Text.trimStart := by
  intro source
  have taken : ofValue (.map [(.str "indent_unit".toList, .str ['\n'])]) =
    .ok { standard with indentUnit := ['\n'] } := rfl
  obtain ⟨_, _, _, same⟩ := indentation_only_unless_line_feeds taken source
  refine ⟨_, taken, by decide +kernel, fun equal => ?_⟩
  rcases same.mp equal with single | outermost
  · exact single List.mem_cons_self
  · exact absurd outermost (by decide +kernel)

end Settings

end Playground
