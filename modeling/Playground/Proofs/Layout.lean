import Playground.Output.Simulation
import Playground.Proofs.Pseudocode.Lines
import Playground.Proofs.Text.Lines

namespace Playground

namespace Statement

/-- Statements of lines that differ in the blanks around them. The residual of a blank line or a comment is the line
itself, so nothing is said about it. -/
structure Alike (s t : Statement) : Prop where
  trimmed : s.trimmed = t.trimmed
  category : s.category = t.category
  residual : s.category ≠ .blankOrComment → s.residual = t.residual

theorem alike_ofLine {a b : Text} (same : a.trim = b.trim) : Alike (ofLine a) (ofLine b) := by
  simp only [ofLine, same]
  split
  · exact ⟨rfl, rfl, fun notBlank => absurd rfl notBlank⟩
  · split
    · exact ⟨rfl, rfl, fun _ => rfl⟩
    · exact ⟨rfl, rfl, fun _ => rfl⟩

namespace Alike

variable {s t : Statement}

theorem body (alike : Alike s t) (notBlank : s.category ≠ .blankOrComment) : s.body = t.body := by
  rw [Statement.body, Statement.body, alike.category, alike.residual notBlank]
  simp only [compound, alike.trimmed, alike.residual notBlank]

theorem pseudocode (alike : Alike s t) (notBlank : s.category ≠ .blankOrComment) (indentUnit : Text) (depth : Nat) :
    s.pseudocode indentUnit depth = t.pseudocode indentUnit depth := by
  have notBlankEither : t.category ≠ .blankOrComment := alike.category ▸ notBlank
  unfold Statement.pseudocode
  rw [alike.category, alike.body notBlank]
  split
  · rfl
  · contradiction
  · rfl

theorem warning? (alike : Alike s t) : s.warning? = t.warning? := by
  by_cases blank : s.category = .blankOrComment
  · have blankEither : t.category = .blankOrComment := alike.category ▸ blank
    simp only [Statement.warning?, blank, blankEither, Category.compoundSign?]
  · rw [Statement.warning?, Statement.warning?, alike.category, alike.residual blank, alike.trimmed]

theorem printed? (alike : Alike s t) : Simulation.printed? s = Simulation.printed? t := by
  by_cases blank : s.category = .blankOrComment
  · have blankEither : t.category = .blankOrComment := alike.category ▸ blank
    rw [Simulation.printed?, Simulation.printed?, blank, blankEither]
    rfl
  · rw [Simulation.printed?, Simulation.printed?, alike.category, alike.residual blank]

end Alike

variable {β : Type} {first second : Text}

/-- What is the same for statements that are alike is the same for programs with the same lines but for blanks. -/
theorem map_ofSource_eq {g : Statement → β} (kept : ∀ {s t : Statement}, Alike s t → g s = g t)
    (same : first.lines.map Text.trim = second.lines.map Text.trim) :
    (ofSource first).map g = (ofSource second).map g := by
  rw [ofSource, ofSource]
  -- The induction is on the lines alone; nothing else of the two programs matters.
  generalize first.lines = ls at same ⊢
  generalize second.lines = ms at same ⊢
  induction ls generalizing ms with
  | nil =>
    obtain rfl := List.map_eq_nil_iff.mp same.symm
    rfl
  | cons l ls ih =>
    obtain ⟨m, ms, rfl, here, later⟩ := List.map_eq_cons_iff.mp same.symm
    rw [List.map_cons, List.map_cons, List.map_cons, List.map_cons, kept (alike_ofLine here.symm), ih ms later.symm]

theorem filterMap_ofSource_eq {g : Statement → Option β} (kept : ∀ {s t : Statement}, Alike s t → g s = g t)
    (same : first.lines.map Text.trim = second.lines.map Text.trim) :
    (ofSource first).filterMap g = (ofSource second).filterMap g := by
  have maps := congrArg (List.filterMap id) (map_ofSource_eq kept same)
  rwa [List.filterMap_map, List.filterMap_map] at maps

end Statement

theorem Text.allBlank_eq_all_trim (t : Text) : t.allBlank = (t.lines.map trim).all (·.isEmpty) := by
  rw [List.all_map, ← allBlank_lines]
  exact congrArg t.lines.all (funext fun l => (isEmpty_trim l).symm)

theorem Simulation.output_eq_of_trim {first second : Text}
    (same : first.lines.map Text.trim = second.lines.map Text.trim) : output first = output second := by
  have blank : first.allBlank = second.allBlank := by
    rw [Text.allBlank_eq_all_trim, same, ← Text.allBlank_eq_all_trim]
  have shown : printed first = printed second := Statement.filterMap_ofSource_eq Statement.Alike.printed? same
  rw [output, output, blank, shown]

namespace Pseudocode

/-- Programs whose lines differ in the blanks around them show the same, give the same warnings and have the same
pseudocode, line for line, but for blank lines and comments, of which each program keeps its own. -/
theorem layout_irrelevant (indentUnit first second : Text)
    (same : first.lines.map Text.trim = second.lines.map Text.trim) :
    let a := Program.ofSource indentUnit first
    let b := Program.ofSource indentUnit second
    Simulation.output first = Simulation.output second ∧
      warnings first = warnings second ∧
      a.finalDepth = b.finalDepth ∧
      a.lines.map (fun l => (l.category, l.depth)) = b.lines.map (fun l => (l.category, l.depth)) ∧
      ∀ (i : Nat) (l m : Line), a.lines[i]? = some l → b.lines[i]? = some m →
        (l.category ≠ .blankOrComment → l.text = m.text) ∧
          (l.category = .blankOrComment → l.text = first.lines[i]? ∧ m.text = second.lines[i]?) := by
  intro a b
  -- Depths follow from categories, and these are the same.
  have categories : (Statement.ofSource first).map (·.category) = (Statement.ofSource second).map (·.category) :=
    Statement.map_ofSource_eq Statement.Alike.category same
  have placed : a.lines.map (fun l => (l.category, l.depth)) = b.lines.map (fun l => (l.category, l.depth)) := calc
    a.lines.map (fun l => (l.category, l.depth)) =
        Nesting.emitted 0 ((Statement.ofSource first).map (·.category)) := map_linesFrom indentUnit 0 _
    _ = Nesting.emitted 0 ((Statement.ofSource second).map (·.category)) := by rw [categories]
    _ = b.lines.map (fun l => (l.category, l.depth)) := (map_linesFrom indentUnit 0 _).symm
  refine ⟨Simulation.output_eq_of_trim same, Statement.filterMap_ofSource_eq Statement.Alike.warning? same,
    congrArg (Nesting.after 0) categories, placed, ?_⟩
  intro i l m inFirst inSecond
  obtain ⟨raw, depth, isLine, atDepth, rfl⟩ := Program.getElem?_lines inFirst
  obtain ⟨otherRaw, otherDepth, isOtherLine, atOtherDepth, rfl⟩ := Program.getElem?_lines inSecond
  have sameDepth : depth = otherDepth := Option.some.inj (atDepth.symm.trans (categories ▸ atOtherDepth))
  have trims : raw.trim = otherRaw.trim := by simpa [isLine, isOtherLine] using congrArg (·[i]?) same
  have alike := Statement.alike_ofLine trims
  subst sameDepth
  constructor
  · intro notBlank
    exact alike.pseudocode notBlank indentUnit depth
  · intro blank
    have blankEither : (Statement.ofLine otherRaw).category = .blankOrComment := alike.category ▸ blank
    rw [isLine, isOtherLine]
    exact ⟨Line.text_ofStatement blank indentUnit depth, Line.text_ofStatement blankEither indentUnit depth⟩

/-- A program that is indented in another way and has other line ends. Its print statement becomes the same line, and
each keeps its comment. -/
theorem layout_irrelevant_line_ends :
    let first : Text := "sus check a\n\tspill \"x\"\n # note\nend sus".toList
    let second : Text := "  sus check a\r\nspill \"x\" \r\n# note\r\nend sus\r".toList
    let a := Program.ofSource defaultIndentUnit first
    let b := Program.ofSource defaultIndentUnit second
    first.lines.map Text.trim = second.lines.map Text.trim ∧
      Simulation.output first = Simulation.output second ∧
      (∃ l m, a.lines[1]? = some l ∧ b.lines[1]? = some m ∧ l.category = .plainPrint ∧ l.text = m.text) ∧
      (∃ l m, a.lines[2]? = some l ∧ b.lines[2]? = some m ∧ l.category = .blankOrComment ∧
        l.text = some " # note".toList ∧ m.text = some "# note\r".toList) := by
  intro first second a b
  have same : first.lines.map Text.trim = second.lines.map Text.trim := by decide
  obtain ⟨output, _, _, _, lines⟩ := layout_irrelevant defaultIndentUnit first second same
  have print : a.lines[1]? = some ⟨.plainPrint, 1, some "    print(\"x\")".toList⟩ := by decide
  have otherPrint : b.lines[1]? = some ⟨.plainPrint, 1, some "    print(\"x\")".toList⟩ := by decide
  have comment : a.lines[2]? = some ⟨.blankOrComment, 1, some " # note".toList⟩ := by decide
  have otherComment : b.lines[2]? = some ⟨.blankOrComment, 1, some "# note\r".toList⟩ := by decide
  obtain ⟨own, otherOwn⟩ := (lines 2 _ _ comment otherComment).2 rfl
  exact ⟨same, output, ⟨_, _, print, otherPrint, rfl, (lines 1 _ _ print otherPrint).1 (by decide)⟩,
    ⟨_, _, comment, otherComment, rfl, own, otherOwn⟩⟩

end Pseudocode

end Playground
