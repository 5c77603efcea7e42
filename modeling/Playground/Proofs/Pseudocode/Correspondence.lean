import Playground.Proofs.Provenance

namespace Playground.Pseudocode

/-- What a line of pseudocode says stays on that line. -/
theorem not_mem_text {indentUnit source : Text} {l : Line} {t : Text} (single : '\n' ∉ indentUnit)
    (member : l ∈ (Program.ofSource indentUnit source).lines) (text : l.text = some t) : '\n' ∉ t := by
  obtain ⟨raw, isLine, fromLine⟩ := exists_line_drawnFrom member text
  intro lineFeed
  rcases fromLine '\n' lineFeed with inOrigin | isOwn
  · rcases List.mem_append.mp inOrigin with inRaw | inIndentation
    · exact Text.not_mem_of_mem_lines isLine inRaw
    · exact single inIndentation
  · exact absurd isOwn (by decide)

theorem Program.lines_text {indentUnit source : Text} (single : '\n' ∉ indentUnit)
    (some : ∃ l ∈ (Program.ofSource indentUnit source).lines, l.category ≠ .blockEnd) :
    (Program.ofSource indentUnit source).text.lines =
      (Program.ofSource indentUnit source).lines.filterMap (·.text) := by
  obtain ⟨l, member, notEnd⟩ := some
  refine Text.lines_unlines (texts_ne_nil member notEnd) fun t isText => ?_
  obtain ⟨m, inProgram, text⟩ := List.mem_filterMap.mp isText
  exact not_mem_text single inProgram text

theorem Program.text_eq_nil {indentUnit source : Text}
    (ends : ∀ l ∈ (Program.ofSource indentUnit source).lines, l.category = .blockEnd) :
    (Program.ofSource indentUnit source).text = [] := by
  have none : (Program.ofSource indentUnit source).lines.filterMap (·.text) = [] :=
    List.filterMap_eq_nil_iff.mpr fun l member => (text_eq_none_iff_of_mem_linesFrom member).mpr (ends l member)
  rw [Program.text, none]
  rfl

/-- There is one line of pseudocode for each source line. Just the block ends have no text, no text runs over its line,
and blank lines and comments stand unchanged where they stood. Cutting the display text at its line feeds gives the
texts back, unless there is none: then the display text is empty. -/
theorem Program.lines_correspond {indentUnit : Text} (source : Text) (single : '\n' ∉ indentUnit) :
    let p := Program.ofSource indentUnit source
    p.lines.length = source.lines.length ∧
      (∀ l ∈ p.lines, l.text = none ↔ l.category = .blockEnd) ∧
      (∀ l ∈ p.lines, ∀ t, l.text = some t → '\n' ∉ t) ∧
      (∀ (i : Nat) (l : Line), p.lines[i]? = some l → l.category = .blankOrComment → l.text = source.lines[i]?) ∧
      ((∃ l ∈ p.lines, l.category ≠ .blockEnd) → p.text.lines = p.lines.filterMap (·.text)) ∧
      ((∀ l ∈ p.lines, l.category = .blockEnd) → p.text = []) := by
  intro p
  refine ⟨?length, ?ends, ?single, ?kept, lines_text single, text_eq_nil⟩
  case length => exact (length_linesFrom indentUnit 0 _).trans (Statement.length_ofSource source)
  case ends => exact fun l member => text_eq_none_iff_of_mem_linesFrom member
  case single => exact fun l member t text => not_mem_text single member text
  case kept =>
    intro i l found blank
    obtain ⟨raw, depth, isLine, _, rfl⟩ := getElem?_lines found
    rw [isLine]
    exact Line.text_ofStatement blank indentUnit depth

/-- A comment, a block with its end and an empty line: five source lines, four of which are shown. -/
theorem Program.lines_correspond_block :
    let source := "# a\nsus check a\n  spill \"x\"\nend sus\n".toList
    let p := Program.ofSource defaultIndentUnit source
    '\n' ∉ defaultIndentUnit ∧ p.lines.length = 5 ∧
      p.text.lines = ["# a".toList, "if a:".toList, "    print(\"x\")".toList, []] := by
  intro source p
  have single : '\n' ∉ defaultIndentUnit := by decide
  obtain ⟨length, _, _, _, shown, _⟩ := Program.lines_correspond source single
  have some : ∃ l ∈ p.lines, l.category ≠ .blockEnd := by decide
  exact ⟨single, length.trans (by decide), (shown some).trans (by decide)⟩

end Playground.Pseudocode
