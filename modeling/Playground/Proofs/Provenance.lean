import Playground.Proofs.Output.Literal
import Playground.Proofs.Output.Records
import Playground.Proofs.Pseudocode.Lines
import Playground.Proofs.Text.Lines

namespace Playground

/-- A character that may be put around what a program says. -/
def IsOwn (c : Char) : Prop := (0x20 ≤ c.toNat ∧ c.toNat ≤ 0x7E) ∨ c = '✨'

instance (c : Char) : Decidable (IsOwn c) := inferInstanceAs (Decidable (_ ∨ _))

/-- A text that may be put around what a program says. -/
def IsOwnText (t : Text) : Prop := ∀ c ∈ t, IsOwn c

-- The characters of `t` are tried one after another, not all the characters there are.
instance (t : Text) : Decidable (IsOwnText t) := decidable_of_iff (t.all fun c => IsOwn c) (by simp [IsOwnText])

/-- Every character of `t` comes from `origin` or is one that may be put there. -/
def DrawnFrom (origin t : Text) : Prop := ∀ c ∈ t, c ∈ origin ∨ IsOwn c

namespace DrawnFrom

variable {origin t u : Text}

theorem of_subset (subset : ∀ c ∈ t, c ∈ origin) : DrawnFrom origin t := fun c member => Or.inl (subset c member)

theorem own (each : IsOwnText t) : DrawnFrom origin t := fun c member => Or.inr (each c member)

theorem trans (first : DrawnFrom origin u) (second : DrawnFrom u t) : DrawnFrom origin t := by
  intro c member
  rcases second c member with inMiddle | isOwn
  · exact first c inMiddle
  · exact Or.inr isOwn

theorem append (front : DrawnFrom origin t) (back : DrawnFrom origin u) : DrawnFrom origin (t ++ u) := by
  intro c member
  rcases List.mem_append.mp member with inFront | inBack
  · exact front c inFront
  · exact back c inBack

end DrawnFrom

namespace Text

theorem mem_of_mem_trim {t : Text} {c : Char} (member : c ∈ trim t) : c ∈ t :=
  (List.dropWhile_sublist _).subset ((prefix_dropEndWhile isBlank (trimStart t)).subset member)

theorem mem_of_mem_words {t word : Text} {c : Char} (isWord : word ∈ words t) (member : c ∈ word) : c ∈ t :=
  mem_of_mem_splitBy (List.mem_filter.mp isWord).1 member

theorem mem_of_mem_repeated {t : Text} {n : Nat} {c : Char} (member : c ∈ repeated t n) : c ∈ t := by
  induction n with
  | zero => contradiction
  | succ n ih =>
    rcases List.mem_append.mp member with here | later
    · exact here
    · exact ih later

theorem mem_replaceWordFrom {word new t : Text} {skip : Nat} {inWord : Bool} {c : Char}
    (member : c ∈ replaceWordFrom word new skip inWord t) : c ∈ t ∨ c ∈ new := by
  induction t generalizing skip inWord with
  | nil => cases skip <;> contradiction
  | cons d t ih =>
    cases skip with
    | succ skip =>
      rw [replaceWordFrom] at member
      exact (ih member).imp_left (List.mem_cons_of_mem d)
    | zero =>
      rw [replaceWordFrom] at member
      split at member
      · rcases List.mem_append.mp member with inNew | inTail
        · exact Or.inr inNew
        · exact (ih inTail).imp_left (List.mem_cons_of_mem d)
      · rcases List.mem_cons.mp member with rfl | inTail
        · exact Or.inl List.mem_cons_self
        · exact (ih inTail).imp_left (List.mem_cons_of_mem d)

theorem drawnFrom_substituteTruth (t : Text) : DrawnFrom t (substituteTruth t) := by
  intro c member
  rcases mem_replaceWordFrom member with inFirst | inNew
  · rcases mem_replaceWordFrom inFirst with inText | inNew
    · exact Or.inl inText
    · exact DrawnFrom.own (by decide : IsOwnText "True".toList) c inNew
  · exact DrawnFrom.own (by decide : IsOwnText "False".toList) c inNew

end Text

namespace Statement

theorem drawnFrom_ofLine (raw : Text) :
    DrawnFrom raw (ofLine raw).trimmed ∧ DrawnFrom raw (ofLine raw).residual := by
  have trimmed : DrawnFrom raw raw.trim := .of_subset fun c member => Text.mem_of_mem_trim member
  rw [ofLine]
  split
  · exact ⟨trimmed, .of_subset fun c member => member⟩
  · split
    · exact ⟨trimmed, trimmed.trans (.of_subset fun c member => List.mem_of_mem_drop member)⟩
    · exact ⟨trimmed, trimmed.trans (Text.drawnFrom_substituteTruth _)⟩

theorem drawnFrom_compound {s : Statement} {origin : Text} (trimmed : DrawnFrom origin s.trimmed)
    (residual : DrawnFrom origin s.residual) {sign : Char} (isOwn : IsOwn sign) :
    DrawnFrom origin (s.compound sign) := by
  rw [compound]
  split
  · rename_i target value more words
    have target : DrawnFrom origin target :=
      residual.trans (.of_subset fun c member => Text.mem_of_mem_words (by simp [words]) member)
    have value : DrawnFrom origin value :=
      residual.trans (.of_subset fun c member => Text.mem_of_mem_words (by simp [words]) member)
    have signs : IsOwnText [' ', sign, '=', ' '] := by
      simp only [IsOwnText, List.forall_mem_cons]
      exact ⟨by decide, isOwn, by decide, by decide, by simp⟩
    exact (target.append (.own signs)).append value
  · exact trimmed.trans (Text.drawnFrom_substituteTruth _)

theorem drawnFrom_body {s : Statement} {origin : Text} (trimmed : DrawnFrom origin s.trimmed)
    (residual : DrawnFrom origin s.residual) : DrawnFrom origin s.body := by
  have around (front back : Text) (inFront : IsOwnText front) (inBack : IsOwnText back) :
      DrawnFrom origin (front ++ s.residual ++ back) := ((DrawnFrom.own inFront).append residual).append (.own inBack)
  have signs : ∀ c sign, Category.compoundSign? c = some sign → IsOwn sign := by
    intro c sign isSign
    cases c <;> simp [Category.compoundSign?] at isSign <;> subst isSign <;> decide
  unfold body
  split
  · exact around _ _ (by decide) (by decide)
  · exact around _ _ (by decide) (by decide)
  · exact around _ _ (by decide) (by decide)
  · exact around _ _ (by decide) (by decide)
  · exact .own (by decide)
  · exact around _ _ (by decide) (by decide)
  · split
    · rename_i sign isSign
      exact drawnFrom_compound trimmed residual (signs _ _ isSign)
    · exact residual

end Statement

namespace Pseudocode

theorem drawnFrom_ofStatement {indentUnit raw : Text} {depth : Nat} {t : Text}
    (text : (Line.ofStatement indentUnit (.ofLine raw) depth).text = some t) : DrawnFrom (raw ++ indentUnit) t := by
  obtain ⟨trimmed, residual⟩ := Statement.drawnFrom_ofLine raw
  have line : DrawnFrom (raw ++ indentUnit) raw := .of_subset fun c inRaw => List.mem_append_left _ inRaw
  have indentation : DrawnFrom (raw ++ indentUnit) (indentUnit.repeated depth) :=
    .of_subset fun c inIndentation => List.mem_append_right _ (Text.mem_of_mem_repeated inIndentation)
  have body := Statement.drawnFrom_body (line.trans trimmed) (line.trans residual)
  rw [Line.ofStatement, Statement.pseudocode] at text
  split at text
  · contradiction
  · obtain rfl := Option.some.inj text
    rw [Statement.raw_ofLine]
    exact line
  · obtain rfl := Option.some.inj text
    exact indentation.append body

/-- A line of pseudocode takes characters from one source line only. -/
theorem exists_line_drawnFrom {indentUnit source : Text} {l : Line} {t : Text}
    (member : l ∈ (Program.ofSource indentUnit source).lines) (text : l.text = some t) :
    ∃ raw ∈ source.lines, DrawnFrom (raw ++ indentUnit) t := by
  obtain ⟨s, inProgram, depth, rfl⟩ := of_mem_linesFrom member
  obtain ⟨raw, isLine, rfl⟩ := List.mem_map.mp inProgram
  exact ⟨raw, isLine, drawnFrom_ofStatement text⟩

theorem drawnFrom_line {indentUnit source : Text} {l : Line} {t : Text}
    (member : l ∈ (Program.ofSource indentUnit source).lines) (text : l.text = some t) :
    DrawnFrom (source ++ indentUnit) t := by
  obtain ⟨raw, isLine, fromLine⟩ := exists_line_drawnFrom member text
  have line : DrawnFrom (source ++ indentUnit) raw :=
    .of_subset fun c inRaw => List.mem_append_left _ (Text.mem_of_mem_splitBy isLine inRaw)
  have indentation : DrawnFrom (source ++ indentUnit) indentUnit :=
    .of_subset fun c inIndentation => List.mem_append_right _ inIndentation
  exact (line.append indentation).trans fromLine

end Pseudocode

theorem Markup.drawnFrom_escape (t : Text) : DrawnFrom t (escape t) := by
  intro c member
  obtain ⟨d, inText, inEscape⟩ := List.mem_flatMap.mp member
  unfold escapeChar at inEscape
  split at inEscape
  case h_6 =>
    obtain rfl := List.mem_singleton.mp inEscape
    exact Or.inl inText
  all_goals exact DrawnFrom.own (by decide) c inEscape

theorem Literal.mem_of_first? {expr literal : Text} (found : first? expr = some literal) {c : Char}
    (member : c ∈ literal) : c ∈ expr := by
  obtain ⟨q, rfl, rfl⟩ := exists_quotation_of_first? found
  obtain ⟨p, inBody, rfl⟩ := List.mem_map.mp member
  have isWritten : p.meant ∈ q.body.flatMap Piece.written := List.mem_flatMap.mpr ⟨p, inBody, p.meant_mem_written⟩
  simp [Quotation.expr, isWritten]

theorem Record.drawnFrom_ofNotice (n : Notice) (origin : Text) : DrawnFrom origin (Record.ofNotice n).text := by
  refine .own ?_
  cases n <;> decide

theorem Simulation.drawnFrom_output {source : Text} {r : Record} (member : r ∈ output source) :
    DrawnFrom source r.text := by
  rcases of_mem_output member with ⟨n, rfl⟩ | printed
  · exact Record.drawnFrom_ofNotice n source
  · obtain ⟨raw, isLine, style, literal, _, found, rfl⟩ := of_mem_printed printed
    have line : DrawnFrom source raw := .of_subset fun c inRaw => Text.mem_of_mem_splitBy isLine inRaw
    have residual := line.trans (Statement.drawnFrom_ofLine raw).2
    have content : DrawnFrom source literal := residual.trans (.of_subset fun c => Literal.mem_of_first? found)
    exact content.trans (Markup.drawnFrom_escape literal)

end Playground
