import Playground.Output.Panel
import Playground.Proofs.Markup.Escaped
import Playground.Proofs.Output.Records

namespace Playground

/-- A record that was made from a raw text by escaping it. -/
def Record.IsMade (r : Record) : Prop := ∃ style raw, r = .ofText style raw

theorem Record.IsMade.isEscaped {r : Record} (made : r.IsMade) : Markup.IsEscaped r.text := by
  obtain ⟨style, raw, rfl⟩ := made
  exact Markup.isEscaped_escape raw

theorem Record.isMade_ofNotice (n : Notice) : (Record.ofNotice n).IsMade := ⟨.sentinel, n.text, rfl⟩

theorem Record.isMade_failure (message : Text) : (Record.failure message).IsMade :=
  ⟨.error, "Error: ".toList ++ message, rfl⟩

theorem Simulation.isMade_output (source : Text) : ∀ r ∈ output source, r.IsMade := by
  intro r member
  rcases of_mem_output member with ⟨n, rfl⟩ | printed
  · exact Record.isMade_ofNotice n
  · obtain ⟨_, _, style, literal, _, _, made⟩ := of_mem_printed printed
    exact ⟨style, literal, made.symm⟩

namespace Panel

/-- All that the panel ever puts around a text. -/
def wrappers : List (Text × Text) :=
  [("<div class=\"output-line\">".toList, "</div>".toList),
   ("<div class=\"output-line output-glow\">✨ ".toList, " ✨</div>".toList),
   ("<div class=\"output-line\"><strong>".toList, "</strong></div>".toList),
   ("<div class=\"output-placeholder\">".toList, "</div>".toList),
   ("<div class=\"output-line output-error\">".toList, "</div>".toList)]

def isAngle (c : Char) : Bool := c == '<' || c == '>'

/-- The markup of some records is safe: their texts are escaped, each stands in one of the fixed wrappers, one
after the other, and all angle brackets are those of the wrappers. -/
structure Safe (records : List Record) (markup : Text) : Prop where
  escaped : ∀ r ∈ records, Markup.IsEscaped r.text
  wrapped : ∃ around : Record → Text × Text,
    (∀ r ∈ records, around r ∈ wrappers) ∧
      markup = records.flatMap (fun r => (around r).1 ++ r.text ++ (around r).2) ∧
      markup.filter isAngle = records.flatMap fun r => ((around r).1 ++ (around r).2).filter isAngle

theorem wrapper_mem (style : Style) (idle : Bool) : wrapper style idle ∈ wrappers := by
  cases style with
  | plain => exact .head _
  | glow => exact .tail _ (.head _)
  | emphasis => exact .tail _ (.tail _ (.head _))
  | error => exact .tail _ (.tail _ (.tail _ (.tail _ (.head _))))
  | sentinel =>
    cases idle with
    | true => exact .tail _ (.tail _ (.tail _ (.head _)))
    | false => exact .head _

theorem filter_isAngle_of_isEscaped {t : Text} (escaped : Markup.IsEscaped t) : t.filter isAngle = [] := by
  rw [List.filter_eq_nil_iff]
  intro c member
  obtain ⟨notLess, notGreater, _⟩ := escaped.plain c member
  simp [isAngle, notLess, notGreater]

theorem safe_ofRecords {records : List Record} (escaped : ∀ r ∈ records, Markup.IsEscaped r.text) :
    Safe records (ofRecords records) where
  escaped := escaped
  wrapped := by
    refine ⟨fun r => wrapper r.style (idleTexts.contains r.text), fun r _ => wrapper_mem _ _, rfl, ?_⟩
    rw [ofRecords, List.filter_flatMap, List.flatMap_def, List.flatMap_def]
    congr 1
    apply List.map_congr_left
    intro r member
    rw [ofRecord, wrap, List.filter_append, List.filter_append,
      filter_isAngle_of_isEscaped (escaped r member), List.append_nil, List.filter_append]

end Panel

end Playground
