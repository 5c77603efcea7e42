import Mathlib.Data.List.Basic
import Playground.Proofs.Pseudocode.Lines
import Playground.Proofs.Statement.Dispatch

namespace Playground

namespace Statement

/-- The words that begin a compound assignment, with the sign of the operator that each stands for. -/
def operators : List (Text × Char) :=
  [("sum".toList, '+'), ("sub".toList, '-'), ("mul".toList, '*'), ("div".toList, '/')]

/-- A keyword of a compound assignment is the word of its operator and a space. -/
theorem exists_operator {k : Keyword} (inTable : k ∈ Keyword.table) {sign : Char}
    (isSign : k.category.compoundSign? = some sign) :
    ∃ word, (word, sign) ∈ operators ∧ word.words = [word] ∧ k.phrase = word ++ [' '] := by
  have rows : ∀ k ∈ Keyword.table, k.category.compoundSign? = none ∨
      ∃ o ∈ operators, k.category.compoundSign? = some o.2 ∧ o.1.words = [o.1] ∧ k.phrase = o.1 ++ [' '] := by decide
  rcases rows k inTable with noSign | ⟨⟨word, other⟩, isOperator, same, isWord, phrase⟩
  · exact absurd (noSign.symm.trans isSign) (Option.some_ne_none sign).symm
  · obtain rfl := Option.some.inj (same.symm.trans isSign)
    exact ⟨word, isOperator, isWord, phrase⟩

variable {raw : Text} {sign : Char}

/-- The words of a compound assignment: that of its operator, and those of the residual, of which there is one. -/
theorem of_compoundSign? (isCompound : (ofLine raw).category.compoundSign? = some sign) :
    (ofLine raw).trimmed = raw.trim ∧ ∃ word target more, (word, sign) ∈ operators ∧
      (ofLine raw).residual.words = target :: more ∧ raw.trim.words = word :: target :: more := by
  rcases ofLine_cases raw with blank | ⟨_, ⟨k, inTable, accepts, isKeyword⟩ | isFallback⟩
  · rw [blank] at isCompound
    contradiction
  · rw [isKeyword] at isCompound ⊢
    obtain ⟨word, isOperator, single, phrase⟩ := exists_operator inTable isCompound
    have flush : (k.residual raw.trim).EndsFlush :=
      Keyword.endsFlush_residual accepts (c := ' ') (by rw [phrase, List.getLast?_concat]) (by decide)
    obtain ⟨target, more, words⟩ := List.exists_cons_of_ne_nil flush.words_ne_nil
    have trimmed : raw.trim = word ++ ' ' :: k.residual raw.trim := by
      rw [← List.singleton_append, ← List.append_assoc, ← phrase, Keyword.phrase_append_residual accepts]
    refine ⟨rfl, word, target, more, isOperator, words, ?_⟩
    calc
      raw.trim.words = (word ++ ' ' :: k.residual raw.trim).words := congrArg Text.words trimmed
      _ = word.words ++ (k.residual raw.trim).words := Text.words_append_cons (by decide) _ _
      _ = word :: target :: more := by rw [single, words, List.singleton_append]
  · rw [isFallback] at isCompound
    contradiction

theorem pseudocode_of_compoundSign? {s : Statement} (isCompound : s.category.compoundSign? = some sign)
    (indentUnit : Text) (depth : Nat) :
    s.pseudocode indentUnit depth = some (indentUnit.repeated depth ++ s.compound sign) := by
  rw [pseudocode, body]
  cases category : s.category <;> rw [category] at isCompound <;> first | contradiction | skip
  all_goals
    obtain rfl := Option.some.inj isCompound
    rfl

/-- The line of a compound assignment without a value, as if no keyword had started it. -/
def asFallback (raw : Text) : Statement := ⟨raw, raw.trim, .fallback, raw.trim.substituteTruth⟩

theorem pseudocode_asFallback (raw indentUnit : Text) (depth : Nat) :
    (asFallback raw).pseudocode indentUnit depth = some (indentUnit.repeated depth ++ raw.trim.substituteTruth) := rfl

/-- The pseudocode of a compound assignment with a value depends on its words only. -/
theorem pseudocode_of_words {target value : Text} {rest : List Text}
    (isCompound : (ofLine raw).category.compoundSign? = some sign)
    (words : (ofLine raw).residual.words = target :: value :: rest) (indentUnit : Text) (depth : Nat) :
    (ofLine raw).pseudocode indentUnit depth =
      some (indentUnit.repeated depth ++ (target ++ [' ', sign, '=', ' '] ++ value)) := by
  rw [pseudocode_of_compoundSign? isCompound, compound, words]

/-- Whether a line is a compound assignment with words behind its value. -/
def HasExtraWords (raw : Text) : Prop := (ofLine raw).category.compoundSign?.isSome = true ∧ 3 < raw.trim.words.length

instance : DecidablePred HasExtraWords := fun _ => inferInstanceAs (Decidable (_ ∧ _))

theorem warning?_ofLine (raw : Text) :
    (ofLine raw).warning? =
      if HasExtraWords raw then some (.extraTokens raw.trim (raw.trim.words.drop 3)) else none := by
  cases isCompound : (ofLine raw).category.compoundSign? with
  | none =>
    have other : ¬ HasExtraWords raw := by simp [HasExtraWords, isCompound]
    rw [if_neg other, warning?, isCompound]
  | some sign =>
    obtain ⟨trimmed, word, target, more, _, residual, words⟩ := of_compoundSign? isCompound
    have extra : HasExtraWords raw ↔ 1 < more.length := by
      simp only [HasExtraWords, isCompound, words, Option.isSome_some, List.length_cons, true_and]
      omega
    rw [warning?, isCompound, residual, trimmed, words]
    match more with
    | [] => exact (if_neg (by simp [extra])).symm
    | [_] => exact (if_neg (by simp [extra])).symm
    | _ :: next :: rest => exact (if_pos (by simp [extra])).symm

end Statement

namespace Pseudocode

open Statement

theorem warnings_eq_map (source : Text) :
    warnings source =
      (source.lines.filter HasExtraWords).map fun raw => .extraTokens raw.trim (raw.trim.words.drop 3) := by
  rw [warnings, Statement.ofSource, List.filterMap_map, ← List.filterMap_eq_map, List.filterMap_filter]
  refine List.filterMap_congr fun raw _ => ?_
  simp [warning?_ofLine]

/-- A program is warned of just the compound assignments with more than three words, in line order, and each warning
names the words behind the third. A compound assignment is the word of its operator and at least one more: with a value
its pseudocode is made of target, operator and value, and without one it is that of a fallback. Those with the same
words, at least three, have the same pseudocode. -/
theorem compound_words_accounted (indentUnit source : Text) :
    let p := Program.ofSource indentUnit source
    (warnings source).map Warning.message =
        (source.lines.filter HasExtraWords).map (fun raw =>
          "Ignoring extra tokens in '".toList ++ raw.trim ++ "': ".toList ++
            Text.joinWith [' '] (raw.trim.words.drop 3)) ∧
      (∀ (i : Nat) (raw : Text) (l : Line) (sign : Char),
        source.lines[i]? = some raw → p.lines[i]? = some l → l.category.compoundSign? = some sign →
          ∃ word target more, (word, sign) ∈ operators ∧ raw.trim.words = word :: target :: more ∧
            (more = [] → l.text = (asFallback raw).pseudocode indentUnit l.depth ∧
              l.text = some (indentUnit.repeated l.depth ++ raw.trim.substituteTruth)) ∧
            ∀ value rest, more = value :: rest →
              l.text = some (indentUnit.repeated l.depth ++ (target ++ [' ', sign, '=', ' '] ++ value))) ∧
      ∀ (a b : Text) (depth : Nat), (ofLine a).category.compoundSign?.isSome = true →
        (ofLine b).category.compoundSign?.isSome = true → a.trim.words = b.trim.words → 3 ≤ a.trim.words.length →
          (ofLine a).pseudocode indentUnit depth = (ofLine b).pseudocode indentUnit depth := by
  intro p
  refine ⟨?warned, ?made, ?same⟩
  case warned =>
    rw [warnings_eq_map, List.map_map]
    rfl
  case made =>
    intro i raw l sign isLine found isCompound
    obtain ⟨other, depth, isOtherLine, _, rfl⟩ := Program.getElem?_lines found
    obtain rfl : raw = other := Option.some.inj (isLine.symm.trans isOtherLine)
    obtain ⟨trimmed, word, target, more, isOperator, residual, words⟩ := of_compoundSign? isCompound
    refine ⟨word, target, more, isOperator, words, ?_, ?_⟩
    · rintro rfl
      have text : (ofLine raw).pseudocode indentUnit depth =
          some (indentUnit.repeated depth ++ raw.trim.substituteTruth) := by
        rw [pseudocode_of_compoundSign? isCompound, compound, residual, trimmed]
      exact ⟨text.trans (pseudocode_asFallback raw indentUnit depth).symm, text⟩
    · rintro value rest rfl
      exact pseudocode_of_words isCompound residual indentUnit depth
  case same =>
    intro a b depth isCompound isCompoundToo sameWords some
    obtain ⟨sign, isSign⟩ := Option.isSome_iff_exists.mp isCompound
    obtain ⟨signToo, isSignToo⟩ := Option.isSome_iff_exists.mp isCompoundToo
    obtain ⟨_, word, target, more, isOperator, residual, words⟩ := of_compoundSign? isSign
    obtain ⟨_, wordToo, targetToo, moreToo, isOperatorToo, residualToo, wordsToo⟩ := of_compoundSign? isSignToo
    have equal : word :: target :: more = wordToo :: targetToo :: moreToo := by rw [← words, ← wordsToo, sameWords]
    obtain ⟨rfl, rfl, rfl⟩ : word = wordToo ∧ target = targetToo ∧ more = moreToo := by simpa using equal
    obtain rfl : sign = signToo := by
      have functional : ∀ e ∈ operators, ∀ f ∈ operators, e.1 = f.1 → e.2 = f.2 := by decide
      exact functional _ isOperator _ isOperatorToo rfl
    rw [words, List.length_cons, List.length_cons] at some
    obtain ⟨value, rest, rfl⟩ := List.exists_cons_of_length_pos (l := more) (by omega)
    rw [pseudocode_of_words isSign residual, pseudocode_of_words isSignToo residualToo]

/-- A line with words too many, in a block, one without a value, and two that differ in their blanks. -/
theorem compound_words_accounted_blanks :
    let source : Text := "vibe until a\n  sum x\t1 2\u20033  4\nmul  yeah\nend vibe".toList
    let p := Program.ofSource defaultIndentUnit source
    let narrow : Text := "sub n 1 # twice".toList
    let wide : Text := " sub \u00a0n\t1\u3000#  twice\r".toList
    (warnings source).map Warning.message = ["Ignoring extra tokens in 'sum x\t1 2\u20033  4': 2 3 4".toList] ∧
      (∃ l, p.lines[1]? = some l ∧ l.category.compoundSign? = some '+' ∧ l.text = some "    x += 1".toList) ∧
      (∃ l, p.lines[2]? = some l ∧ l.category.compoundSign? = some '*' ∧ l.text = some "    mul  True".toList) ∧
      narrow.trim.words = wide.trim.words ∧
      (ofLine narrow).pseudocode defaultIndentUnit 0 = (ofLine wide).pseudocode defaultIndentUnit 0 := by
  intro source p narrow wide
  obtain ⟨warned, made, same⟩ := compound_words_accounted defaultIndentUnit source
  have words : narrow.trim.words = wide.trim.words := by decide
  refine ⟨warned.trans (by decide), ?_, ?_, words, same narrow wide 0 (by decide) (by decide) words (by decide)⟩
  · have found : p.lines[1]? = some ⟨.compoundAdd, 1, some "    x += 1".toList⟩ := by decide
    have cut : Text.words (Text.trim "  sum x\t1 2\u20033  4".toList) =
        ["sum".toList, ['x'], ['1'], ['2'], ['3'], ['4']] := by decide
    have line : source.lines[1]? = some "  sum x\t1 2\u20033  4".toList := by decide
    obtain ⟨word, target, more, _, each, _, text⟩ := made 1 _ _ '+' line found rfl
    obtain ⟨_, rfl, rfl⟩ := List.cons.inj (cut.symm.trans each) |>.imp_right List.cons.inj
    exact ⟨_, found, rfl, (text ['1'] _ rfl).trans (by decide)⟩
  · have found : p.lines[2]? = some ⟨.compoundMul, 1, some "    mul  True".toList⟩ := by decide
    have cut : Text.words (Text.trim "mul  yeah".toList) = ["mul".toList, "yeah".toList] := by decide
    have line : source.lines[2]? = some "mul  yeah".toList := by decide
    obtain ⟨word, target, more, _, each, text, _⟩ := made 2 _ _ '*' line found rfl
    obtain ⟨_, rfl, rfl⟩ := List.cons.inj (cut.symm.trans each) |>.imp_right List.cons.inj
    exact ⟨_, found, rfl, (text rfl).2.trans (by decide)⟩

end Pseudocode

end Playground
