import Playground.Proofs.Json.RoundTrip
import Playground.Proofs.Nesting
import Playground.Proofs.Output.Records
import Playground.Proofs.Saved.Reading
import Playground.Saved.Export

namespace Playground.Saved

open Json (Returns)

/-- The record holds a text. -/
def Record.IsTextual (r : Record) : Prop := ∃ t, r.text = .str t

/-- The line holds a text or none, and stands at a depth that the reader takes. -/
structure Line.IsTextual (l : Line) : Prop where
  text : l.text = .null ∨ ∃ t, l.text = .str t
  depth : Decimal.IsShort l.depth

/-- All parts of the run hold texts, its depths are ones that the reader takes, and it has a record. -/
structure Run.IsTextual (r : Run) : Prop where
  source : ∃ t, r.source = .str t
  lines : ∀ l ∈ r.program.lines, l.IsTextual
  finalDepth : ∃ n, r.program.finalDepth = .int n ∧ Decimal.IsShort n
  records : ∀ record ∈ r.records, record.IsTextual
  some : r.records ≠ []

theorem Record.returns {r : Record} (textual : r.IsTextual) :
    ∃ w, Returns r.toValue w ∧ Record.ofValue w = .ok r := by
  obtain ⟨t, text⟩ := textual
  have each : Returns r.text r.text := by
    rw [text]
    exact Json.returns_str t
  obtain ⟨w, returns, under⟩ := Json.returns_map_lookup
    [("style".toList, .str r.style.name.toList, .str r.style.name.toList), ("text".toList, r.text, r.text)]
    (by simpa using ⟨Json.returns_str _, each⟩) (by decide : ["style".toList, "text".toList].Nodup)
  simp only [List.forall_mem_cons] at under
  exact ⟨w, returns, Record.ofValue_of_lookup under.1 under.2.1⟩

theorem Line.returns {l : Line} (textual : l.IsTextual) :
    ∃ w, Returns l.toValue w ∧ Line.ofValue w = .ok l := by
  have text : Returns l.text l.text := by
    rcases textual.text with none | ⟨t, some⟩
    · rw [none]
      exact Json.returns_null
    · rw [some]
      exact Json.returns_str t
  have depth := Json.returns_int textual.depth
  obtain ⟨w, returns, under⟩ := Json.returns_map_lookup
    [("category".toList, .str l.category.name.toList, .str l.category.name.toList),
      ("depth".toList, .int l.depth, .int l.depth), ("text".toList, l.text, l.text)]
    (by simpa using ⟨Json.returns_str _, depth, text⟩)
    (by decide : ["category".toList, "depth".toList, "text".toList].Nodup)
  simp only [List.forall_mem_cons] at under
  exact ⟨w, returns, Line.ofValue_of_lookup under.1 under.2.1 under.2.2.1⟩

theorem joinTexts_map_str (separator : Text) (position : Nat) (ts : List Text) :
    joinTexts separator position (ts.map .str) = .ok (Text.joinWith separator ts) := by
  induction ts generalizing position with
  | nil => rfl
  | cons t ts ih =>
    cases ts with
    | nil => rfl
    | cons u ts =>
      have rest := ih (position + 1)
      rw [List.map_cons] at rest ⊢
      rw [List.map_cons, joinTexts, rest]
      · rfl
      · simp

theorem filter_texts {ls : List Line} (textual : ∀ l ∈ ls, l.IsTextual) :
    ∃ ts : List Text, ((ls.map (·.text)).filter fun v => v.kind != .null) = ts.map .str := by
  induction ls with
  | nil => exact ⟨[], rfl⟩
  | cons l ls ih =>
    obtain ⟨ts, rest⟩ := ih fun other member => textual other (List.mem_cons_of_mem l member)
    rcases (textual l List.mem_cons_self).text with none | ⟨t, some⟩
    · refine ⟨ts, ?_⟩
      rw [List.map_cons, none, List.filter_cons_of_neg (by decide), rest]
    · refine ⟨t :: ts, ?_⟩
      rw [List.map_cons, some, List.filter_cons_of_pos (by rfl), rest, List.map_cons]

theorem Program.returns {p : Program} (lines : ∀ l ∈ p.lines, l.IsTextual)
    (finalDepth : ∃ n, p.finalDepth = .int n ∧ Decimal.IsShort n) :
    ∃ v w, p.toValue = .ok v ∧ Returns v w ∧ Program.ofValue w = .ok p := by
  obtain ⟨ts, texts⟩ := filter_texts lines
  obtain ⟨n, isInt, short⟩ := finalDepth
  have text : p.text = .ok (Text.joinWith ['\n'] ts) := by
    rw [Program.text, texts, joinTexts_map_str]
  have depth : Returns p.finalDepth p.finalDepth := by
    rw [isInt]
    exact Json.returns_int short
  obtain ⟨ws, returnsLines, each⟩ := Json.returns_list_map fun l member => Line.returns (lines l member)
  obtain ⟨w, returns, under⟩ := Json.returns_map_lookup
    [("lines".toList, .list (p.lines.map Line.toValue), .list ws),
      ("final_depth".toList, p.finalDepth, p.finalDepth),
      ("text".toList, .str (Text.joinWith ['\n'] ts), .str (Text.joinWith ['\n'] ts))]
    (by simpa using ⟨returnsLines, depth, Json.returns_str _⟩)
    (by decide : ["lines".toList, "final_depth".toList, "text".toList].Nodup)
  simp only [List.forall_mem_cons] at under
  refine ⟨_, w, ?_, returns, Program.ofValue_of_lookup under.1 each under.2.1⟩
  rw [Program.toValue, text]
  rfl

theorem Run.returns {r : Run} (textual : r.IsTextual) :
    ∃ v w, r.toValue = .ok v ∧ Returns v w ∧ Run.ofValue w = .ok r := by
  obtain ⟨t, isText⟩ := textual.source
  have source : Returns r.source r.source := by
    rw [isText]
    exact Json.returns_str t
  obtain ⟨program, lines, toValue, returnsProgram, ofValue⟩ := Program.returns textual.lines textual.finalDepth
  obtain ⟨ws, returnsRecords, each⟩ :=
    Json.returns_list_map fun record member => Record.returns (textual.records record member)
  obtain ⟨simulation, returnsSimulation, records⟩ := Json.returns_map_lookup
    [("records".toList, .list (r.records.map Record.toValue), .list ws)]
    (by simpa using returnsRecords) (by decide : ["records".toList].Nodup)
  simp only [List.forall_mem_cons] at records
  obtain ⟨w, returns, under⟩ := Json.returns_map_lookup
    [("source".toList, r.source, r.source), ("transpiled".toList, program, lines),
      ("simulation".toList, entries [("records", .list (r.records.map Record.toValue))], simulation)]
    (by simpa using ⟨source, returnsProgram, returnsSimulation⟩)
    (by decide : ["source".toList, "transpiled".toList, "simulation".toList].Nodup)
  simp only [List.forall_mem_cons] at under
  refine ⟨_, w, ?_, returns, Run.ofValue_of_lookup under.1 under.2.1 ofValue under.2.2.1
    (readRecords_of_lookup records.1 each textual.some)⟩
  rw [Run.toValue, toValue]
  rfl

theorem Run.isTextual_ofSource (indentUnit source : Text) (short : Decimal.IsShort source.lines.length) :
    (Run.ofRun (.ofSource indentUnit source)).IsTextual where
  source := ⟨source, rfl⟩
  lines := by
    intro l member
    obtain ⟨line, inProgram, rfl⟩ := List.mem_map.mp member
    have bound := Pseudocode.Program.depth_le_of_mem_lines inProgram
    refine ⟨?_, short.of_le bound⟩
    cases text : line.text with
    | none => exact Or.inl (by rw [Line.ofLine, text])
    | some t => exact Or.inr ⟨t, by rw [Line.ofLine, text]⟩
  finalDepth := ⟨_, rfl, short.of_le (Pseudocode.Program.finalDepth_le indentUnit source)⟩
  records := by
    intro record member
    obtain ⟨made, _, rfl⟩ := List.mem_map.mp member
    exact ⟨made.text, rfl⟩
  some := by
    intro none
    exact Simulation.output_ne_nil source (List.map_eq_nil_iff.mp none)

/-- A run that holds texts is written as text, the text is read, and what it says is the run itself: the source,
each line with its category, depth and text or lack of one, the final depth, and each record with its escaped
text. In particular this is so for what running a program text gives. -/
theorem Run.json_lossless :
    (∀ r : Run, r.IsTextual →
      ∃ text value, r.toJson = .ok text ∧ Json.parse text = .ok value ∧ Run.ofValue value = .ok r) ∧
    (∀ indentUnit source : Text, Decimal.IsShort source.lines.length →
      ∃ text value, (Run.ofRun (.ofSource indentUnit source)).toJson = .ok text ∧
        Json.parse text = .ok value ∧ Run.ofValue value = .ok (Run.ofRun (.ofSource indentUnit source))) := by
  have lossless (r : Run) (textual : r.IsTextual) :
      ∃ text value, r.toJson = .ok text ∧ Json.parse text = .ok value ∧ Run.ofValue value = .ok r := by
    obtain ⟨v, w, toValue, returns, ofValue⟩ := Run.returns textual
    obtain ⟨text, written, parsed⟩ := returns.parse
    refine ⟨text, w, ?_, parsed, ofValue⟩
    rw [Run.toJson, toValue]
    exact written
  refine ⟨lossless, ?_⟩
  intro indentUnit source short
  exact lossless _ (Run.isTextual_ofSource indentUnit source short)

/-- A saved run with what is awkward to write: quotes and backslashes, control characters, signs beyond ASCII, an
empty text beside a missing one, and depths below zero. -/
def Run.awkward : Run where
  source := .str "say \"hi\" \\ \x00\x1F\x7F\r\n\t\u2028 é ✨ </\uFEFF".toList
  program :=
    { lines := [⟨.blockEnd, -12, .null⟩, ⟨.blankOrComment, 0, .str []⟩, ⟨.plainPrint, 345, .str "null".toList⟩]
      finalDepth := .int (-1000000000000000000000) }
  records := [⟨.plain, .str "&amp;lt; &quot;".toList⟩, ⟨.error, .str []⟩]

theorem Run.json_lossless_awkward :
    Run.awkward.IsTextual ∧
    (∃ text value, Run.awkward.toJson = .ok text ∧ Json.parse text = .ok value ∧
      Run.ofValue value = .ok Run.awkward) ∧
    Decimal.IsShort (Text.lines "yap \"a & b\"\n\n# \x01".toList).length ∧
    ∃ text value, (Run.ofRun (.ofSource ['\t'] "yap \"a & b\"\n\n# \x01".toList)).toJson = .ok text ∧
      Json.parse text = .ok value ∧
      Run.ofValue value = .ok (Run.ofRun (.ofSource ['\t'] "yap \"a & b\"\n\n# \x01".toList)) := by
  have textual : Run.awkward.IsTextual :=
    { source := ⟨_, rfl⟩
      lines := by
        simp only [Run.awkward, List.forall_mem_cons]
        exact ⟨⟨Or.inl rfl, by decide⟩, ⟨Or.inr ⟨_, rfl⟩, by decide⟩, ⟨Or.inr ⟨_, rfl⟩, by decide⟩, by simp⟩
      finalDepth := ⟨_, rfl, by decide⟩
      records := by
        simp only [Run.awkward, List.forall_mem_cons]
        exact ⟨⟨_, rfl⟩, ⟨_, rfl⟩, by simp⟩
      some := by simp [Run.awkward] }
  have short : Decimal.IsShort (Text.lines "yap \"a & b\"\n\n# \x01".toList).length := by decide
  exact ⟨textual, Run.json_lossless.1 _ textual, short, Run.json_lossless.2 _ _ short⟩

end Playground.Saved
