import Playground.Proofs.Pseudocode.Lines
import Playground.Proofs.Statement.Dispatch

namespace Playground

namespace Statement

theorem isFlush_compound {s : Statement} (flush : s.trimmed.IsFlush) (sign : Char) : (s.compound sign).IsFlush := by
  rw [compound]
  split
  · rename_i target value more words
    have isFirst : target ∈ s.residual.words := by rw [words]; exact List.mem_cons_self
    rw [List.append_assoc]
    exact (Text.isFlush_of_mem_words isFirst).append _
  · exact flush.substituteTruth

/-- What is made of a statement is flush, unless it is what the source has behind the keyword. -/
theorem isFlush_body {s : Statement} (flush : s.trimmed.IsFlush)
    (own : s.category ∉ [.blankOrComment, .blockEnd, .variableDecl, .fallback]) : s.body.IsFlush := by
  have around (front back : Text) (starts : front.IsFlush) : (front ++ s.residual ++ back).IsFlush :=
    (starts.append s.residual).append back
  unfold body
  split
  · exact around _ _ ⟨'p', _, rfl, by decide⟩
  · exact around _ _ ⟨'p', _, rfl, by decide⟩
  · exact around _ _ ⟨'p', _, rfl, by decide⟩
  · exact around _ _ ⟨'i', _, rfl, by decide⟩
  · exact ⟨'e', _, rfl, by decide⟩
  · exact around _ _ ⟨'w', _, rfl, by decide⟩
  · split
    · exact isFlush_compound flush _
    · cases category : s.category <;> simp_all [Category.compoundSign?]

/-- A declaration takes over what is behind the space of its keyword, which is not nothing. -/
theorem of_variableDecl {raw : Text} (declares : (ofLine raw).category = .variableDecl) :
    ∃ declared, declared ≠ [] ∧ raw.trim = "braincell ".toList ++ declared ∧ (ofLine raw).body = declared := by
  rcases ofLine_cases raw with blank | ⟨_, ⟨k, inTable, accepts, isKeyword⟩ | isFallback⟩
  · simp [blank] at declares
  · rw [isKeyword] at declares
    have row : ∀ k ∈ Keyword.table, k.category = .variableDecl → k = ⟨.variableDecl, "braincell ".toList, false⟩ := by
      decide
    obtain rfl := row k inTable declares
    refine ⟨_, (Keyword.endsFlush_residual accepts rfl (by decide)).ne_nil,
      (Keyword.phrase_append_residual accepts).symm, ?_⟩
    rw [isKeyword]
    rfl
  · simp [isFallback] at declares

end Statement

/-- A declaration that has further blanks behind the space of its keyword. -/
def IsPadded (raw : Text) : Prop :=
  ∃ c declared, raw.trim = "braincell ".toList ++ c :: declared ∧ Text.isBlank c = true

theorem IsPadded.category {raw : Text} (padded : IsPadded raw) : (Statement.ofLine raw).category = .variableDecl := by
  obtain ⟨c, declared, trimmed, _⟩ := padded
  rw [Statement.ofLine, trimmed]
  rfl

namespace Statement

/-- What is made of a line is flush, unless the line is a padded declaration. -/
theorem isFlush_body_iff {raw : Text} (notEnd : (ofLine raw).category ≠ .blockEnd)
    (notBlank : (ofLine raw).category ≠ .blankOrComment) :
    (ofLine raw).body ≠ [] ∧ ((ofLine raw).body.IsFlush ↔ ¬ IsPadded raw) := by
  by_cases declares : (ofLine raw).category = .variableDecl
  · obtain ⟨declared, some, trimmed, body⟩ := of_variableDecl declares
    obtain ⟨c, rest, rfl⟩ := List.exists_cons_of_ne_nil some
    refine ⟨by rw [body]; exact some, ?_⟩
    rw [body, Text.isFlush_cons]
    constructor
    · rintro visible ⟨d, other, otherwise, blank⟩
      obtain ⟨rfl, rfl⟩ := List.cons.inj (List.append_cancel_left (trimmed.symm.trans otherwise))
      rw [visible] at blank
      contradiction
    · intro notPadded
      exact Bool.eq_false_iff.mpr fun blank => notPadded ⟨c, rest, trimmed, blank⟩
  · have flush : (ofLine raw).body.IsFlush := by
      rcases ofLine_cases raw with blank | ⟨some, ⟨k, inTable, _, isKeyword⟩ | isFallback⟩
      · contradiction
      · have notFallback : ∀ k ∈ Keyword.table, k.category ≠ .fallback := by decide
        rw [isKeyword] at notEnd notBlank declares ⊢
        refine isFlush_body (Text.isFlush_trim some) ?_
        simp only [List.mem_cons, List.not_mem_nil, or_false, not_or]
        exact ⟨notBlank, notEnd, declares, notFallback k inTable⟩
      · rw [isFallback]
        exact (Text.isFlush_trim some).substituteTruth
    exact ⟨flush.ne_nil, fun _ padded => declares padded.category, fun _ => flush⟩

end Statement

namespace Pseudocode

/-- A line that is not kept from the source is its indentation and something that is not empty. The blanks in front of
it are its indentation and no others, except in padded declarations: there what is declared brings its own. -/
theorem Program.indentation_exact_iff {indentUnit : Text} (source : Text) (blank : indentUnit.allBlank = true) (i : Nat)
    (raw : Text) (l : Line) (isLine : source.lines[i]? = some raw)
    (found : (Program.ofSource indentUnit source).lines[i]? = some l) (notEnd : l.category ≠ .blockEnd)
    (notBlank : l.category ≠ .blankOrComment) :
    ∃ body, l.text = some (indentUnit.repeated l.depth ++ body) ∧ body ≠ [] ∧
      (body.IsFlush ↔ ¬ IsPadded raw) ∧
      ((indentUnit.repeated l.depth ++ body).takeWhile Text.isBlank = indentUnit.repeated l.depth ↔ ¬ IsPadded raw) ∧
      (IsPadded raw → l.category = .variableDecl) := by
  obtain ⟨other, depth, isOtherLine, _, rfl⟩ := Program.getElem?_lines found
  obtain rfl : raw = other := Option.some.inj (isLine.symm.trans isOtherLine)
  obtain ⟨some, flush⟩ := Statement.isFlush_body_iff notEnd notBlank
  refine ⟨(Statement.ofLine raw).body, ?_, some, flush, ?_, IsPadded.category⟩
  · rw [Line.ofStatement, Statement.pseudocode]
    split <;> first | contradiction | rfl
  · exact (Text.takeWhile_isBlank_eq_iff (Text.allBlank_repeated blank depth) some).trans flush

/-- Two declarations in a block, the first of which is padded and stands deeper than its block. -/
theorem Program.indentation_exact_iff_padded :
    let source := "sus check a\nbraincell   x = 1\n  braincell y = 2\nend sus".toList
    let p := Program.ofSource defaultIndentUnit source
    defaultIndentUnit.allBlank = true ∧
      (∃ l body, p.lines[1]? = some l ∧ l.category = .variableDecl ∧ l.depth = 1 ∧
        l.text = some (defaultIndentUnit.repeated 1 ++ body) ∧ l.text = some "      x = 1".toList ∧ ¬ body.IsFlush) ∧
      (∃ l body, p.lines[2]? = some l ∧ l.category = .variableDecl ∧ l.depth = 1 ∧
        l.text = some (defaultIndentUnit.repeated 1 ++ body) ∧ l.text = some "    y = 2".toList ∧ body.IsFlush) := by
  intro source p
  have blank : defaultIndentUnit.allBlank = true := by decide
  refine ⟨blank, ?padded, ?tight⟩
  case padded =>
    have padded : IsPadded "braincell   x = 1".toList := ⟨' ', " x = 1".toList, by decide, by decide⟩
    have found : p.lines[1]? = some ⟨.variableDecl, 1, some "      x = 1".toList⟩ := by decide
    obtain ⟨body, text, _, flush, _⟩ :=
      Program.indentation_exact_iff source blank 1 "braincell   x = 1".toList _ (by decide) found (by decide)
        (by decide)
    exact ⟨_, body, found, rfl, rfl, text, rfl, fun isFlush => flush.mp isFlush padded⟩
  case tight =>
    have tight : ¬ IsPadded "  braincell y = 2".toList := by
      rintro ⟨c, declared, trimmed, blank⟩
      have same : "braincell ".toList ++ "y = 2".toList = "braincell ".toList ++ c :: declared := trimmed
      obtain rfl : 'y' = c := (List.cons.inj (List.append_cancel_left same)).1
      contradiction
    have found : p.lines[2]? = some ⟨.variableDecl, 1, some "    y = 2".toList⟩ := by decide
    obtain ⟨body, text, _, flush, _⟩ :=
      Program.indentation_exact_iff source blank 2 "  braincell y = 2".toList _ (by decide) found (by decide)
        (by decide)
    exact ⟨_, body, found, rfl, rfl, text, rfl, flush.mpr tight⟩

end Pseudocode

end Playground
