import Playground.Proofs.Provenance
import Playground.Proofs.Saved.Document
import Playground.Proofs.Saved.Lossless

namespace Playground.Saved

open Yaml

/-- The line that comes back of a line. -/
def Line.returned (l : Pseudocode.Line) : Line := ⟨l.category, l.depth, lineValue l.text⟩

/-- The record that comes back of a record. -/
def Record.returned (r : Playground.Record) : Record := ⟨r.style, .str (Yaml.returned r.text)⟩

/-- The run that comes back of a run: all parts are there, with every text as its scalar gives it back. -/
def Run.returned (r : Playground.Run) : Run where
  source := .str (Yaml.returned r.source)
  program := ⟨r.program.lines.map Line.returned, .int r.program.finalDepth⟩
  records := r.records.map Record.returned

theorem Line.ofValue_lineMapping (l : Pseudocode.Line) :
    Line.ofValue (.map (Value.keyed (mappingOf (lineMapping l)))) = .ok (Line.returned l) := by
  have nodup : ((mappingOf (lineMapping l)).map (·.1)).Nodup :=
    (by decide : ["category".toList, "depth".toList, "text".toList].Nodup)
  refine Line.ofValue_of_lookup (Value.lookup_keyed nodup ?_) (Value.lookup_keyed nodup ?_)
    (Value.lookup_keyed nodup ?_)
  all_goals simp [mappingOf, lineMapping, Line.returned]

theorem Record.ofValue_recordMapping (r : Playground.Record) :
    Record.ofValue (.map (Value.keyed (mappingOf (recordMapping r)))) = .ok (Record.returned r) := by
  have nodup : ((mappingOf (recordMapping r)).map (·.1)).Nodup :=
    (by decide : ["style".toList, "text".toList].Nodup)
  refine Record.ofValue_of_lookup (Value.lookup_keyed nodup ?_) (Value.lookup_keyed nodup ?_)
  all_goals simp [mappingOf, recordMapping, Record.returned]

theorem Run.ofValue_runMapping {r : Playground.Run} (records : r.records ≠ []) :
    Run.ofValue (.map (Value.keyed (mappingOf (runMapping r)))) = .ok (Run.returned r) := by
  have nodupRun : ((mappingOf (runMapping r)).map (·.1)).Nodup :=
    (by decide : ["source".toList, "transpiled".toList, "simulation".toList].Nodup)
  have nodupProgram : ((mappingOf (programMapping r.program)).map (·.1)).Nodup :=
    (by decide : ["lines".toList, "final_depth".toList, "text".toList].Nodup)
  have nodupSimulation : ((mappingOf (simulationMapping r.records)).map (·.1)).Nodup :=
    (by decide : ["records".toList].Nodup)
  have program : Program.ofValue (.map (Value.keyed (mappingOf (programMapping r.program)))) =
      .ok (Run.returned r).program := by
    refine Program.ofValue_of_lookup (Value.lookup_keyed nodupProgram ?_)
      (mapM_map_eq_ok Line.ofValue_lineMapping r.program.lines) (Value.lookup_keyed nodupProgram ?_)
    all_goals simp [mappingOf, programMapping, Run.returned]
  have simulation : readRecords (.map (Value.keyed (mappingOf (simulationMapping r.records)))) =
      .ok (Run.returned r).records := by
    refine readRecords_of_lookup (Value.lookup_keyed nodupSimulation ?_)
      (mapM_map_eq_ok Record.ofValue_recordMapping r.records) (by simpa [Run.returned] using records)
    simp [mappingOf, simulationMapping]
  refine Run.ofValue_of_lookup (Value.lookup_keyed nodupRun ?_) (Value.lookup_keyed nodupRun ?_) program
    (Value.lookup_keyed nodupRun ?_) simulation
  all_goals simp [mappingOf, runMapping, Run.returned]

/-- The texts that a saved run holds: the source, the texts of its lines, and those of its records. -/
def texts (r : Playground.Run) : List Text :=
  r.source :: (r.program.lines.filterMap (·.text) ++ r.records.map (·.text))

theorem Line.returned_eq_ofLine_iff (l : Pseudocode.Line) :
    Line.returned l = Line.ofLine l ↔ ∀ t, l.text = some t → Yaml.returned t = t := by
  cases text : l.text with
  | none => simp [Line.returned, Line.ofLine, text, lineValue]
  | some t => simp [Line.returned, Line.ofLine, text, lineValue]

theorem Record.returned_eq_ofRecord_iff (r : Playground.Record) :
    Record.returned r = Record.ofRecord r ↔ Yaml.returned r.text = r.text := by
  simp [Record.returned, Record.ofRecord]

/-- The run that comes back is the run itself exactly if each of its texts comes back. -/
theorem Run.returned_eq_ofRun_iff (r : Playground.Run) :
    Run.returned r = Run.ofRun r ↔ ∀ t ∈ texts r, Yaml.returned t = t := by
  have source : Value.str (Yaml.returned r.source) = .str r.source ↔ Yaml.returned r.source = r.source := by simp
  have lines : r.program.lines.map Line.returned = r.program.lines.map Line.ofLine ↔
      ∀ t ∈ r.program.lines.filterMap (·.text), Yaml.returned t = t := by
    rw [List.map_inj_left]
    simp only [Line.returned_eq_ofLine_iff, List.mem_filterMap]
    constructor
    · rintro each t ⟨l, member, text⟩
      exact each l member t text
    · intro each l member t text
      exact each t ⟨l, member, text⟩
  have records : r.records.map Record.returned = r.records.map Record.ofRecord ↔
      ∀ t ∈ r.records.map (·.text), Yaml.returned t = t := by
    rw [List.map_inj_left]
    simp only [Record.returned_eq_ofRecord_iff, List.forall_mem_map]
  simp only [Run.returned, Run.ofRun, Program.ofProgram, Run.mk.injEq, Program.mk.injEq, and_true, source, lines,
    records, texts, List.forall_mem_cons, List.forall_mem_append]

theorem isReadable_ofSource (indentUnit source : Text) (short : Decimal.IsShort source.lines.length) :
    IsReadable (.ofSource indentUnit source) where
  lines := by
    obtain ⟨line, more, lines⟩ := List.exists_cons_of_ne_nil (Text.lines_ne_nil source)
    simp [Playground.Run.ofSource, Pseudocode.Program.ofSource, Statement.ofSource, lines, Pseudocode.linesFrom]
  depths := fun l member => short.of_le (Pseudocode.Program.depth_le_of_mem_lines member)
  finalDepth := short.of_le (Pseudocode.Program.finalDepth_le indentUnit source)
  records := Simulation.output_ne_nil source

/-- Every character of a saved text comes from the program text or the indentation unit, or is put there for every
program. -/
theorem drawnFrom_texts {indentUnit source t : Text} (member : t ∈ texts (.ofSource indentUnit source)) :
    DrawnFrom (source ++ indentUnit) t := by
  have fromSource : DrawnFrom (source ++ indentUnit) source :=
    .of_subset fun c inSource => List.mem_append_left _ inSource
  simp only [texts, List.mem_cons, List.mem_append, List.mem_filterMap, List.mem_map] at member
  rcases member with rfl | ⟨l, isLine, text⟩ | ⟨r, isRecord, rfl⟩
  · exact fromSource
  · exact Pseudocode.drawnFrom_line isLine text
  · exact fromSource.trans (Simulation.drawnFrom_output isRecord)

/-- The YAML document of what running a program text gives is always read, and read as a run. That run is the one that
was saved exactly if no text of it that is written in single quotes has a next-line character; without that
character in the program text and in the indentation unit it always is. -/
theorem Run.yaml_lossless_iff (indentUnit source : Text) (short : Decimal.IsShort source.lines.length) :
    (∃ value saved, Yaml.parse (document (.ofSource indentUnit source)) = .ok value ∧ Run.ofValue value = .ok saved ∧
      (saved = Run.ofRun (.ofSource indentUnit source) ↔
        ∀ t ∈ texts (.ofSource indentUnit source), ScalarStyle.ofText t = .singleQuoted → '\u0085' ∉ t)) ∧
    ('\u0085' ∉ source → '\u0085' ∉ indentUnit →
      ∃ value, Yaml.parse (document (.ofSource indentUnit source)) = .ok value ∧
        Run.ofValue value = .ok (Run.ofRun (.ofSource indentUnit source))) := by
  have readable := isReadable_ofSource indentUnit source short
  have parsed := parse_document readable
  have read := Run.ofValue_runMapping readable.records
  have same := Run.returned_eq_ofRun_iff (.ofSource indentUnit source)
  simp only [Yaml.returned_eq_self_iff] at same
  refine ⟨⟨_, _, parsed, read, same⟩, ?_⟩
  intro notInSource notInUnit
  have comesBack := same.mpr fun t member _ inText => by
    rcases drawnFrom_texts member _ inText with inEither | isOwn
    · exact (List.mem_append.mp inEither).elim notInSource notInUnit
    · exact absurd isOwn (by decide)
  exact ⟨_, parsed, comesBack ▸ read⟩

/-- A next-line character between two letters is lost; what is awkward otherwise is not: quotes, signs and words that
mean something, control characters, and blanks at both ends of lines. -/
theorem Run.yaml_lossless_iff_next_line :
    Decimal.IsShort (Text.lines "a\u0085b".toList).length ∧
    (∃ value saved, Yaml.parse (document (.ofSource Pseudocode.defaultIndentUnit "a\u0085b".toList)) = .ok value ∧
      Run.ofValue value = .ok saved ∧ saved ≠ Run.ofRun (.ofSource Pseudocode.defaultIndentUnit "a\u0085b".toList)) ∧
    Decimal.IsShort (Text.lines "  spill \"it's # 1: é\u2028 \"\n\n# \x01\tyes\n~ ".toList).length ∧
    '\u0085' ∉ "  spill \"it's # 1: é\u2028 \"\n\n# \x01\tyes\n~ ".toList ∧ '\u0085' ∉ ['\t'] ∧
    ∃ value,
      Yaml.parse (document (.ofSource ['\t'] "  spill \"it's # 1: é\u2028 \"\n\n# \x01\tyes\n~ ".toList)) =
        .ok value ∧
      Run.ofValue value =
        .ok (Run.ofRun (.ofSource ['\t'] "  spill \"it's # 1: é\u2028 \"\n\n# \x01\tyes\n~ ".toList)) := by
  have short : Decimal.IsShort (Text.lines "a\u0085b".toList).length := by decide
  have shortAwkward :
      Decimal.IsShort (Text.lines "  spill \"it's # 1: é\u2028 \"\n\n# \x01\tyes\n~ ".toList).length := by
    decide
  obtain ⟨⟨value, saved, parsed, read, same⟩, _⟩ := Run.yaml_lossless_iff Pseudocode.defaultIndentUnit _ short
  obtain ⟨_, lossless⟩ := Run.yaml_lossless_iff ['\t'] _ shortAwkward
  refine ⟨short, ⟨value, saved, parsed, read, ?_⟩, shortAwkward, by decide, by decide, lossless (by decide) (by decide)⟩
  intro unchanged
  have single : ScalarStyle.ofText "a\u0085b".toList = .singleQuoted := by decide
  exact same.mp unchanged "a\u0085b".toList List.mem_cons_self single (by decide)

end Playground.Saved
