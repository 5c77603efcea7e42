import Mathlib.Data.List.Find
import Playground.Proofs.Text.Flush
import Playground.Statement.Basic

namespace Playground

namespace Keyword

/-- Two rows neither of whose phrases starts with the other one. -/
def Apart (k l : Keyword) : Prop := ¬ k.phrase <+: l.phrase ∧ ¬ l.phrase <+: k.phrase

instance (k l : Keyword) : Decidable (k.Apart l) := inferInstanceAs (Decidable (_ ∧ _))

theorem pairwise_apart_table : table.Pairwise Apart := by decide

variable {k l : Keyword} {t : Text} {rows : List Keyword}

theorem prefix_of_accepts (accepts : k.accepts t = true) : k.phrase <+: t := by
  rw [Keyword.accepts] at accepts
  split at accepts
  · obtain rfl := beq_iff_eq.mp accepts
    exact List.prefix_rfl
  · exact List.isPrefixOf_iff_prefix.mp accepts

theorem phrase_append_residual (accepts : k.accepts t = true) : k.phrase ++ k.residual t = t :=
  List.prefix_iff_eq_append.mp (prefix_of_accepts accepts)

/-- Of two phrases in front of one text the shorter one starts the other one. -/
theorem Apart.not_accepts (apart : Apart k l) (accepts : k.accepts t = true) : l.accepts t = false := by
  rw [Bool.eq_false_iff]
  intro acceptsToo
  rcases List.prefix_or_prefix_of_prefix (prefix_of_accepts accepts) (prefix_of_accepts acceptsToo) with short | long
  · exact apart.1 short
  · exact apart.2 long

theorem countP_accepts_le_one (apart : rows.Pairwise Apart) (t : Text) : rows.countP (·.accepts t) ≤ 1 := by
  induction apart with
  | nil => exact Nat.zero_le 1
  | @cons k rest others _ ih =>
    rw [List.countP_cons]
    cases accepts : k.accepts t with
    | false => simpa using ih
    | true =>
      have none : rest.countP (·.accepts t) = 0 := by
        rw [List.countP_eq_zero]
        intro l member
        rw [(others l member).not_accepts accepts]
        decide
      rw [none, if_pos rfl]

theorem eq_of_accepts (apart : rows.Pairwise Apart) (inRows : k ∈ rows) (inRowsToo : l ∈ rows)
    (accepts : k.accepts t = true) (acceptsToo : l.accepts t = true) : k = l := by
  induction apart with
  | nil => contradiction
  | cons others _ ih =>
    rcases List.mem_cons.mp inRows with rfl | later <;> rcases List.mem_cons.mp inRowsToo with rfl | laterToo
    · rfl
    · rw [(others l laterToo).not_accepts accepts] at acceptsToo
      contradiction
    · rw [(others k later).not_accepts acceptsToo] at accepts
      contradiction
    · exact ih later laterToo

theorem find?_eq_of_perm (apart : rows.Pairwise Apart) {others : List Keyword} (perm : rows.Perm others) (t : Text) :
    others.find? (·.accepts t) = rows.find? (·.accepts t) := by
  refine (List.find?_eq_find?_of_perm perm ?_).symm
  rintro k ⟨inRows, accepts⟩ l ⟨inRowsToo, acceptsToo⟩
  exact eq_of_accepts apart inRows inRowsToo accepts acceptsToo

/-- The row that is found is the only one that accepts. -/
theorem find?_eq_some_iff : find? t = some k ↔ k ∈ table ∧ k.accepts t = true := by
  rw [find?]
  constructor
  · intro found
    have accepts := List.find?_some found
    exact ⟨List.mem_of_find?_eq_some found, accepts⟩
  · rintro ⟨inTable, accepts⟩
    cases found : table.find? (·.accepts t) with
    | none => exact absurd accepts (List.find?_eq_none.mp found k inTable)
    | some l =>
      have acceptsToo := List.find?_some found
      rw [eq_of_accepts pairwise_apart_table (List.mem_of_find?_eq_some found) inTable acceptsToo accepts]

/-- Where a phrase ends with a blank, a trimmed line has something behind it, which ends with no blank. -/
theorem endsFlush_residual {raw : Text} (accepts : k.accepts raw.trim = true) {c : Char}
    (asks : k.phrase.getLast? = some c) (blank : Text.isBlank c = true) : (k.residual raw.trim).EndsFlush := by
  obtain ⟨front, phrase⟩ := List.getLast?_eq_some_iff.mp asks
  have trimmed : raw.trim = front ++ [c] ++ k.residual raw.trim := by
    rw [← phrase, phrase_append_residual accepts]
  exact Text.endsFlush_of_trim_eq blank trimmed

end Keyword

namespace Statement

/-- A line that is neither blank nor a comment. -/
def IsCode (raw : Text) : Prop := raw.trim ≠ [] ∧ raw.trim.head? ≠ some '#'

instance (raw : Text) : Decidable (IsCode raw) := inferInstanceAs (Decidable (_ ∧ _))

theorem isCode_iff {raw : Text} : IsCode raw ↔ (raw.trim.isEmpty || raw.trim.startsWith ['#']) = false := by
  rw [IsCode]
  cases raw.trim with
  | nil => simp
  | cons c rest => simp [Text.startsWith, List.isPrefixOf, @eq_comm _ '#']

/-- The statement that a source line is where other rows are tried, or the same ones in another order. -/
def ofLineBy (rows : List Keyword) (raw : Text) : Statement :=
  let trimmed := raw.trim
  if trimmed.isEmpty || trimmed.startsWith ['#'] then ⟨raw, trimmed, .blankOrComment, raw⟩
  else
    match rows.find? (·.accepts trimmed) with
    | some k => ⟨raw, trimmed, k.category, k.residual trimmed⟩
    | none => ⟨raw, trimmed, .fallback, trimmed.substituteTruth⟩

theorem ofLineBy_table : ofLineBy Keyword.table = ofLine := rfl

theorem ofLineBy_perm {rows : List Keyword} (perm : rows.Perm Keyword.table) : ofLineBy rows = ofLine := by
  rw [← ofLineBy_table]
  funext raw
  rw [ofLineBy, ofLineBy, Keyword.find?_eq_of_perm Keyword.pairwise_apart_table perm.symm]

theorem ofLine_of_not_isCode {raw : Text} (notCode : ¬ IsCode raw) :
    ofLine raw = ⟨raw, raw.trim, .blankOrComment, raw⟩ := by
  rw [isCode_iff, Bool.not_eq_false] at notCode
  rw [ofLine, if_pos notCode]

theorem ofLine_of_accepts {raw : Text} {k : Keyword} (isCode : IsCode raw) (inTable : k ∈ Keyword.table)
    (accepts : k.accepts raw.trim = true) : ofLine raw = ⟨raw, raw.trim, k.category, k.residual raw.trim⟩ := by
  rw [isCode_iff] at isCode
  rw [ofLine, isCode, if_neg Bool.false_ne_true, Keyword.find?_eq_some_iff.mpr ⟨inTable, accepts⟩]

theorem ofLine_of_not_accepts {raw : Text} (isCode : IsCode raw)
    (none : ∀ k ∈ Keyword.table, k.accepts raw.trim = false) :
    ofLine raw = ⟨raw, raw.trim, .fallback, raw.trim.substituteTruth⟩ := by
  have notFound : Keyword.find? raw.trim = Option.none := by
    rw [Keyword.find?, List.find?_eq_none]
    intro k inTable
    rw [none k inTable]
    decide
  rw [isCode_iff] at isCode
  rw [ofLine, isCode, if_neg Bool.false_ne_true, notFound]

/-- A line is a blank line or a comment, or it starts with a keyword, or it is a fallback. -/
theorem ofLine_cases (raw : Text) :
    (ofLine raw).category = .blankOrComment ∨
      raw.trim ≠ [] ∧
        ((∃ k ∈ Keyword.table, k.accepts raw.trim = true ∧
            ofLine raw = ⟨raw, raw.trim, k.category, k.residual raw.trim⟩) ∨
          ofLine raw = ⟨raw, raw.trim, .fallback, raw.trim.substituteTruth⟩) := by
  by_cases isCode : IsCode raw
  · refine Or.inr ⟨isCode.1, ?_⟩
    by_cases accepted : ∃ k ∈ Keyword.table, k.accepts raw.trim = true
    · obtain ⟨k, inTable, accepts⟩ := accepted
      exact Or.inl ⟨k, inTable, accepts, ofLine_of_accepts isCode inTable accepts⟩
    · refine Or.inr (ofLine_of_not_accepts isCode fun k inTable => ?_)
      rw [Bool.eq_false_iff]
      exact fun accepts => accepted ⟨k, inTable, accepts⟩
  · rw [ofLine_of_not_isCode isCode]
    exact Or.inl rfl

/-- At most one row of the keyword table accepts a line that is neither blank nor a comment, so that the rows may be
tried in any order. The line is the phrase of the row and the residual; if the phrase ends with a space, the residual
is not empty and ends with no blank. A line that no row accepts is a fallback, and blank lines and comments are left
as they are. -/
theorem keyword_unambiguous (raw : Text) :
    (∀ rows : List Keyword, rows.Perm Keyword.table → ofLineBy rows raw = ofLine raw) ∧
      (IsCode raw →
        Keyword.table.countP (·.accepts raw.trim) ≤ 1 ∧
          (∀ k ∈ Keyword.table, k.accepts raw.trim = true →
            (ofLine raw).category = k.category ∧ k.phrase ++ (ofLine raw).residual = raw.trim ∧
              (k.phrase.getLast? = some ' ' → (ofLine raw).residual.EndsFlush)) ∧
          ((∀ k ∈ Keyword.table, k.accepts raw.trim = false) →
            (ofLine raw).category = .fallback ∧ (ofLine raw).residual = raw.trim.substituteTruth)) ∧
      (¬ IsCode raw → (ofLine raw).category = .blankOrComment ∧ (ofLine raw).residual = raw) := by
  refine ⟨?anyOrder, fun isCode => ⟨?once, ?accepted, ?refused⟩, ?notCode⟩
  case anyOrder =>
    intro rows perm
    rw [ofLineBy_perm perm]
  case once => exact Keyword.countP_accepts_le_one Keyword.pairwise_apart_table raw.trim
  case accepted =>
    intro k inTable accepts
    rw [ofLine_of_accepts isCode inTable accepts]
    exact ⟨rfl, Keyword.phrase_append_residual accepts, fun asks => Keyword.endsFlush_residual accepts asks (by decide)⟩
  case refused =>
    intro none
    rw [ofLine_of_not_accepts isCode none]
    exact ⟨rfl, rfl⟩
  case notCode =>
    intro notCode
    rw [ofLine_of_not_isCode notCode]
    exact ⟨rfl, rfl⟩

/-- A line with blanks of several kinds, the rows tried from the last to the first, and a keyword without an argument. -/
theorem keyword_unambiguous_reversed :
    let raw : Text := "\t skibidi spill   x\u00a0\r".toList
    let bare : Text := "spill ".toList
    IsCode raw ∧ ofLineBy Keyword.table.reverse raw = ofLine raw ∧
      "skibidi spill ".toList ++ (ofLine raw).residual = "skibidi spill   x".toList ∧
      (ofLine raw).residual.EndsFlush ∧
      IsCode bare ∧ (ofLine bare).category = .fallback := by
  intro raw bare
  have isCode : IsCode raw := by decide
  have isCodeToo : IsCode bare := by decide
  obtain ⟨anyOrder, code, _⟩ := keyword_unambiguous raw
  obtain ⟨_, codeToo, _⟩ := keyword_unambiguous bare
  obtain ⟨_, accepted, _⟩ := code isCode
  obtain ⟨_, _, refused⟩ := codeToo isCodeToo
  obtain ⟨_, whole, flush⟩ := accepted ⟨.glowPrint, "skibidi spill ".toList, false⟩ (by decide) (by decide)
  exact ⟨isCode, anyOrder _ (List.reverse_perm _), whole, flush (by decide), isCodeToo, (refused (by decide)).1⟩

end Statement

end Playground
