import Playground.Journal
import Playground.Proofs.Output.Records
import Playground.Proofs.Pseudocode.Concatenation
import Playground.Proofs.Text.Lines

namespace Playground

/-- Whether a category is that of a print statement. -/
def Category.isPrint : Category → Bool
  | .plainPrint | .glowPrint | .emphasisPrint => true
  | _ => false

theorem Category.isSome_printStyle? (c : Category) : c.printStyle?.isSome = c.isPrint := by cases c <;> rfl

theorem Category.printStyle?_ne_sentinel (c : Category) : c.printStyle? ≠ some .sentinel := by cases c <;> decide

/-- A blank program has no print statement. -/
theorem Statement.isPrint_of_allBlank {source : Text} (blank : source.allBlank = true) {s : Statement}
    (member : s ∈ ofSource source) : s.category.isPrint = false := by
  obtain ⟨raw, isLine, rfl⟩ := List.mem_map.mp member
  rw [← Text.allBlank_lines, List.all_eq_true] at blank
  have blankLine : raw.trim.isEmpty = true := by rw [Text.isEmpty_trim, blank raw isLine]
  rw [ofLine, blankLine, Bool.true_or, if_pos rfl]
  rfl

namespace Simulation

variable {s : Statement} {source : Text}

theorem printed?_of_not_isPrint (other : s.category.isPrint = false) : printed? s = none := by
  rw [← Category.isSome_printStyle?, Option.isSome_eq_false_iff, Option.isNone_iff_eq_none] at other
  rw [printed?, other]
  rfl

theorem unprinted?_of_not_isPrint (other : s.category.isPrint = false) : unprinted? s = none := by
  rw [unprinted?, Category.isSome_printStyle?, other, Bool.false_and, if_neg Bool.false_ne_true]

/-- A print statement is either shown or reported. -/
theorem printed?_or_unprinted? (isPrint : s.category.isPrint = true) :
    (∃ r, printed? s = some r ∧ unprinted? s = none) ∨ (printed? s = none ∧ unprinted? s = some s.residual) := by
  rw [← Category.isSome_printStyle?] at isPrint
  obtain ⟨style, isStyle⟩ := Option.isSome_iff_exists.mp isPrint
  cases found : Literal.first? s.residual with
  | some literal => exact Or.inl ⟨.ofText style literal, by simp [printed?, isStyle, found], by simp [unprinted?, found]⟩
  | none => exact Or.inr ⟨by simp [printed?, found], by simp [unprinted?, isPrint, found]⟩

theorem length_printed_add_unprinted (statements : List Statement) :
    (statements.filterMap printed?).length + (statements.filterMap unprinted?).length =
      statements.countP (·.category.isPrint) := by
  induction statements with
  | nil => rfl
  | cons s statements ih =>
    cases isPrint : s.category.isPrint with
    | false =>
      rw [List.filterMap_cons_none (printed?_of_not_isPrint isPrint),
        List.filterMap_cons_none (unprinted?_of_not_isPrint isPrint), ih, List.countP_cons_of_neg (by simp [isPrint])]
    | true =>
      have counted : (s :: statements).countP (·.category.isPrint) = statements.countP (·.category.isPrint) + 1 :=
        List.countP_cons_of_pos isPrint
      rw [counted, ← ih]
      rcases printed?_or_unprinted? isPrint with ⟨r, shown, silent⟩ | ⟨hidden, reported⟩
      · rw [List.filterMap_cons_some shown, List.filterMap_cons_none silent, List.length_cons]
        omega
      · rw [List.filterMap_cons_none hidden, List.filterMap_cons_some reported, List.length_cons]
        omega

theorem printed_of_allBlank (blank : source.allBlank = true) : printed source = [] := by
  rw [printed, List.filterMap_eq_nil_iff]
  intro s member
  exact printed?_of_not_isPrint (Statement.isPrint_of_allBlank blank member)

theorem unprinted_eq_filterMap (source : Text) :
    unprinted source = (Statement.ofSource source).filterMap unprinted? := by
  rw [unprinted]
  split
  · rename_i blank
    symm
    rw [List.filterMap_eq_nil_iff]
    intro s member
    exact unprinted?_of_not_isPrint (Statement.isPrint_of_allBlank blank member)
  · rfl

theorem style_ne_sentinel_of_mem {r : Record} (member : r ∈ printed source) : r.style ≠ .sentinel := by
  obtain ⟨raw, _, style, literal, isStyle, _, rfl⟩ := of_mem_printed member
  rintro rfl
  exact Category.printStyle?_ne_sentinel _ isStyle

theorem printed_concatenation (first second : Text) :
    printed (first ++ '\n' :: second) = printed first ++ printed second := by
  rw [printed, Pseudocode.ofSource_append, List.filterMap_append, printed, printed]

/-- The notice that stands in for the output of a program that prints nothing. -/
def standIn (source : Text) : Notice := if source.trim = [] then .noCode else .noOutput

theorem output_eq_standIn (silent : printed source = []) : output source = [.ofNotice (standIn source)] := by
  rw [output, standIn, silent]
  by_cases blank : source.allBlank = true
  · rw [if_pos blank, if_pos (Text.trim_eq_nil_iff.mpr blank)]
  · rw [if_neg blank, if_neg (mt Text.trim_eq_nil_iff.mp blank)]

theorem output_eq_printed (some : printed source ≠ []) : output source = printed source := by
  have notBlank : ¬ source.allBlank = true := fun blank => some (printed_of_allBlank blank)
  rw [output, if_neg notBlank]
  split
  · rename_i silent
    exact absurd silent some
  · rfl

theorem onlySentinels_printed (some : printed source ≠ []) :
    Style.onlySentinels ((printed source).map (·.style)) = false := by
  obtain ⟨r, more, cons⟩ := List.exists_cons_of_ne_nil some
  have member : r ∈ printed source := by simp [cons]
  simp [cons, Style.onlySentinels, style_ne_sentinel_of_mem member]

/-- The records that a program itself has printed, which no notice is among. -/
def real (source : Text) : List Record := (output source).filter (·.style != .sentinel)

theorem real_eq_printed (source : Text) : real source = printed source := by
  by_cases silent : printed source = []
  · rw [real, output_eq_standIn silent, silent]
    rfl
  · rw [real, output_eq_printed silent, List.filter_eq_self]
    intro r member
    exact bne_iff_ne.mpr (style_ne_sentinel_of_mem member)

end Simulation

/-- Whether an entry reports a print statement without a literal. -/
def Journal.Entry.isNoLiteral : Entry → Bool
  | noLiteral _ => true
  | _ => false

theorem Journal.countP_isNoLiteral (indentUnit source : Text) :
    (Report.ofRun (.ofSource indentUnit source)).entries.countP (·.isNoLiteral) =
      (Simulation.unprinted source).length := by
  have reported : ((Simulation.unprinted source).map Entry.noLiteral).countP (·.isNoLiteral) =
      (Simulation.unprinted source).length := by
    rw [List.countP_map]
    exact List.countP_eq_length.mpr fun _ _ => rfl
  have others : ∀ count, (if count == 0 then [] else [Entry.unclosedBlocks count]).countP (·.isNoLiteral) = 0 := by
    intro count
    split <;> rfl
  rw [Report.ofRun, List.countP_append, others, Nat.zero_add]
  exact reported

namespace Simulation

/-- Nothing that a program prints is lost, doubled or moved. What two programs print one behind the other is what the
first prints and then what the second prints. The output is never empty: it is what the program has printed, or, if
that is nothing, the one notice that there is no code, for a blank source, or no output. Each print statement has its
record or its journal entry. -/
theorem output_accounted (source : Text) :
    (∀ later, real (source ++ '\n' :: later) = real source ++ real later) ∧
      output source ≠ [] ∧
      (real source ≠ [] →
        output source = real source ∧ Style.onlySentinels ((output source).map (·.style)) = false) ∧
      (real source = [] →
        output source = [.ofNotice (if source.trim = [] then .noCode else .noOutput)] ∧
          Style.onlySentinels ((output source).map (·.style)) = true) ∧
      (source.trim = [] → real source = []) ∧
      ∀ indentUnit,
        (real source).length + (Journal.Report.ofRun (.ofSource indentUnit source)).entries.countP (·.isNoLiteral) =
          (Statement.ofSource source).countP (·.category.isPrint) := by
  have isNotice (n : Notice) : Style.onlySentinels ([Record.ofNotice n].map (·.style)) = true := rfl
  refine ⟨?_, ?_, ?_, ?_, ?_, ?_⟩
  · intro later
    rw [real_eq_printed, real_eq_printed, real_eq_printed, printed_concatenation]
  · exact output_ne_nil source
  · intro some
    rw [real_eq_printed] at some ⊢
    refine ⟨output_eq_printed some, ?_⟩
    rw [output_eq_printed some]
    exact onlySentinels_printed some
  · intro silent
    rw [real_eq_printed] at silent
    rw [output_eq_standIn silent]
    exact ⟨rfl, isNotice _⟩
  · intro blank
    rw [real_eq_printed, printed_of_allBlank (Text.trim_eq_nil_iff.mp blank)]
  · intro indentUnit
    rw [real_eq_printed, Journal.countP_isNoLiteral, unprinted_eq_filterMap]
    exact length_printed_add_unprinted _

/-- A program that prints, one that prints nothing, and a blank one. -/
theorem output_accounted_each_kind :
    let printing := "spill \"a\"\nspill x".toList
    let silent := "spill x".toList
    let blank : Text := " \n\t".toList
    (real printing ≠ [] ∧ output printing = real printing) ∧
      (real silent = [] ∧ output silent = [.ofNotice .noOutput]) ∧
      (blank.trim = [] ∧ real blank = [] ∧ output blank = [.ofNotice .noCode]) := by
  intro printing silent blank
  have shown : real printing ≠ [] := by decide
  have hidden : real silent = [] := by decide
  have nothing : blank.trim = [] := by decide
  obtain ⟨_, _, prints, _⟩ := output_accounted printing
  obtain ⟨_, _, _, noOutput, _⟩ := output_accounted silent
  obtain ⟨_, _, _, noCode, none, _⟩ := output_accounted blank
  exact ⟨⟨shown, (prints shown).1⟩, ⟨hidden, (noOutput hidden).1⟩, nothing, none nothing, (noCode (none nothing)).1⟩

end Simulation

end Playground
