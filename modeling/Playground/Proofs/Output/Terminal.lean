import Playground.Output.Terminal
import Playground.Proofs.Markup.Unescaped
import Playground.Proofs.Output.Printed
import Playground.Proofs.Provenance

namespace Playground

/-- What a statement prints: the category of a print statement, and the first literal of its argument. -/
def Statement.print? (s : Statement) : Option (Category × Text) :=
  if s.category.isPrint then (Literal.first? s.residual).map (s.category, ·) else none

/-- What the statements of a program print, in line order. -/
def prints (source : Text) : List (Category × Text) := (Statement.ofSource source).filterMap (·.print?)

/-- No literal of a program holds a line feed, since no line does. -/
theorem not_mem_of_mem_prints {source literal : Text} {c : Category} (printed : (c, literal) ∈ prints source) :
    '\n' ∉ literal := by
  obtain ⟨s, inProgram, shown⟩ := List.mem_filterMap.mp printed
  obtain ⟨raw, isLine, rfl⟩ := List.mem_map.mp inProgram
  rw [Statement.print?, Option.ite_none_right_eq_some, Option.map_eq_some_iff] at shown
  obtain ⟨_, content, found, same⟩ := shown
  obtain rfl := (Prod.mk.inj same).2
  intro member
  rcases (Statement.drawnFrom_ofLine raw).2 '\n' (Literal.mem_of_first? found member) with inLine | isOwn
  · exact Text.not_mem_of_mem_lines isLine inLine
  · exact absurd isOwn (by decide)

namespace Terminal

/-- How the terminal shows a literal that a statement of the given category prints. -/
def shown : Category × Text → Text
  | (.glowPrint, literal) => "✨ ".toList ++ literal ++ " ✨".toList
  | (.emphasisPrint, literal) => "**".toList ++ literal ++ "**".toList
  | (_, literal) => literal

theorem not_mem_shown {c : Category} {literal : Text} (single : '\n' ∉ literal) : '\n' ∉ shown (c, literal) := by
  unfold shown
  split <;> simp_all

theorem decorate_eq_shown {c : Category} {style : Style} (isStyle : c.printStyle? = some style) (literal : Text) :
    decorate style literal = shown (c, literal) := by
  cases c <;> simp only [Category.printStyle?, Option.some.injEq, reduceCtorEq] at isStyle <;> subst isStyle <;> rfl

theorem ofRecord_ofText (style : Style) (raw : Text) : ofRecord (.ofText style raw) = decorate style raw := by
  rw [ofRecord, rawText, Record.ofText, Markup.unescape_escape]

theorem map_ofRecord_printed? (s : Statement) : (Simulation.printed? s).map ofRecord = s.print?.map shown := by
  cases isPrint : s.category.isPrint with
  | false =>
    rw [Simulation.printed?_of_not_isPrint isPrint, Statement.print?, isPrint]
    rfl
  | true =>
    obtain ⟨style, isStyle⟩ := Option.isSome_iff_exists.mp (s.category.isSome_printStyle?.trans isPrint)
    cases found : Literal.first? s.residual with
    | none => simp [Simulation.printed?, Statement.print?, found]
    | some literal =>
      have same := (ofRecord_ofText style literal).trans (decorate_eq_shown isStyle literal)
      simp [Simulation.printed?, Statement.print?, isStyle, isPrint, found, same]

theorem map_ofRecord_printed (source : Text) :
    (Simulation.printed source).map ofRecord = (prints source).map shown := by
  rw [Simulation.printed, prints, List.map_filterMap, List.map_filterMap]
  exact List.filterMap_congr fun s _ => map_ofRecord_printed? s

theorem printed_eq_nil_iff (source : Text) : Simulation.printed source = [] ↔ prints source = [] := by
  rw [← List.map_eq_nil_iff (f := ofRecord), map_ofRecord_printed, List.map_eq_nil_iff]

/-- The terminal shows what a program prints line by line, each literal character for character, and of a program
that prints nothing it shows the notice in brackets. -/
theorem lines_output (source : Text) :
    (prints source ≠ [] → (ofRecords (Simulation.output source)).lines = (prints source).map shown) ∧
      (prints source = [] →
        ofRecords (Simulation.output source) =
          '[' :: (if source.trim = [] then Notice.noCode else .noOutput).text ++ [']']) := by
  constructor
  · intro some
    -- Without line feeds in them, the lines of the records are given back by cutting at line feeds.
    have single : ∀ line ∈ (prints source).map shown, '\n' ∉ line := by
      intro line member
      obtain ⟨⟨c, literal⟩, printed, rfl⟩ := List.mem_map.mp member
      exact not_mem_shown (not_mem_of_mem_prints printed)
    rw [Simulation.output_eq_printed (mt (printed_eq_nil_iff source).mp some), ofRecords, map_ofRecord_printed]
    exact Text.lines_unlines (mt List.map_eq_nil_iff.mp some) single
  · intro none
    rw [Simulation.output_eq_standIn ((printed_eq_nil_iff source).mpr none)]
    exact ofRecord_ofText .sentinel _

/-- Literals that look like references are shown as they stand. -/
theorem lines_output_references :
    let source := "spill \"&amp;lt; &#10;\" + x\nskibidi spill '<\\'>'\nspill x\nrizzmode spill \"&notit;\"".toList
    let silent := "spill x".toList
    prints source ≠ [] ∧
      (ofRecords (Simulation.output source)).lines =
        ["&amp;lt; &#10;".toList, "✨ <'> ✨".toList, "**&notit;**".toList] ∧
      prints silent = [] ∧ ofRecords (Simulation.output silent) = '[' :: Notice.noOutput.text ++ [']'] := by
  intro source silent
  have some : prints source ≠ [] := by decide
  have none : prints silent = [] := by decide
  have notBlank : Text.trim silent ≠ [] := by decide
  have bracketed := (lines_output silent).2 none
  rw [if_neg notBlank] at bracketed
  exact ⟨some, ((lines_output source).1 some).trans (by decide), none, bracketed⟩

/-- Escaping a raw text and decoding it gives the text back, and decoding what stands behind it goes on as if nothing
stood in front. The terminal therefore shows records of raw texts with just the decoration of their styles. -/
theorem raw_texts_shown :
    (∀ raw rest : Text, Markup.unescape (Markup.escape raw ++ rest) = (raw ++ ·) <$> Markup.unescape rest) ∧
      (∀ raw : Text, Markup.unescape (Markup.escape raw) = .ok raw) ∧
      (∀ raw : Text,
        ofRecords [.ofText .plain raw] = raw ∧
        ofRecords [.ofText .error raw] = raw ∧
        ofRecords [.ofText .glow raw] = "✨ ".toList ++ raw ++ " ✨".toList ∧
        ofRecords [.ofText .emphasis raw] = "**".toList ++ raw ++ "**".toList ∧
        ofRecords [.ofText .sentinel raw] = "[".toList ++ raw ++ "]".toList) ∧
      ∀ records : List (Style × Text),
        ofRecords (records.map fun r => .ofText r.1 r.2) = Text.unlines (records.map fun r => decorate r.1 r.2) := by
  have single (style : Style) (raw : Text) : ofRecords [.ofText style raw] = decorate style raw :=
    ofRecord_ofText style raw
  refine ⟨Markup.unescape_escape_append, Markup.unescape_escape, fun raw => ?_, fun records => ?_⟩
  · exact ⟨single .plain raw, single .error raw, single .glow raw, single .emphasis raw, single .sentinel raw⟩
  · rw [ofRecords, List.map_map]
    exact congrArg Text.unlines (List.map_congr_left fun r _ => ofRecord_ofText r.1 r.2)

end Terminal

end Playground
