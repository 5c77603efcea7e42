import Playground.Markup.Escape

namespace Playground.Markup

/-- The references that stand for the characters that mean something in markup. -/
def references : List Text :=
  ["&amp;".toList, "&lt;".toList, "&gt;".toList, "&quot;".toList, "&#x27;".toList]

/-- An escaped text holds no angle bracket and no quote, and each ampersand in it begins a reference. -/
structure IsEscaped (t : Text) : Prop where
  plain : ∀ c ∈ t, c ≠ '<' ∧ c ≠ '>' ∧ c ≠ '"' ∧ c ≠ '\''
  reference : ∀ before after, t = before ++ '&' :: after → ∃ r ∈ references, r <+: '&' :: after

theorem isEscaped_nil : IsEscaped [] where
  plain := by simp
  reference := by simp

theorem IsEscaped.append {a b : Text} (first : IsEscaped a) (second : IsEscaped b) : IsEscaped (a ++ b) where
  plain := by
    intro c member
    rcases List.mem_append.mp member with inFirst | inSecond
    · exact first.plain c inFirst
    · exact second.plain c inSecond
  reference := by
    intro before after split
    rcases List.append_eq_append_iff.mp split with ⟨rest, rfl, rfl⟩ | ⟨rest, rfl, tail⟩
    · exact second.reference rest after rfl
    · cases rest with
      | nil => exact second.reference [] after tail.symm
      | cons c rest =>
        obtain ⟨rfl, rfl⟩ := List.cons.inj tail
        obtain ⟨r, known, front⟩ := first.reference before rest rfl
        exact ⟨r, known, front.trans (List.prefix_append ('&' :: rest) b)⟩

theorem isEscaped_singleton {c : Char} (plain : c ≠ '<' ∧ c ≠ '>' ∧ c ≠ '"' ∧ c ≠ '\'') (notAmp : c ≠ '&') :
    IsEscaped [c] where
  plain := by simpa using plain
  reference := by
    intro before after split
    have member : '&' ∈ [c] := by simp [split]
    exact absurd (List.mem_singleton.mp member).symm notAmp

/-- A reference has its only ampersand in front. -/
theorem isEscaped_reference (t : Text) (plain : ∀ c ∈ t, c ≠ '<' ∧ c ≠ '>' ∧ c ≠ '"' ∧ c ≠ '\'')
    (notAmp : '&' ∉ t) (known : '&' :: t ∈ references) : IsEscaped ('&' :: t) where
  plain := by
    intro c member
    rcases List.mem_cons.mp member with rfl | inTail
    · decide
    · exact plain c inTail
  reference := by
    intro before after split
    cases before with
    | nil =>
      rw [List.nil_append] at split
      rw [← split]
      exact ⟨'&' :: t, known, List.prefix_rfl⟩
    | cons c before =>
      obtain ⟨_, tail⟩ := List.cons.inj split
      exact absurd (by simp [tail] : '&' ∈ t) notAmp

theorem isEscaped_escapeChar (c : Char) : IsEscaped (escapeChar c) := by
  unfold escapeChar
  split
  · exact isEscaped_reference ['a', 'm', 'p', ';'] (by simp) (by decide) (by decide)
  · exact isEscaped_reference ['l', 't', ';'] (by simp) (by decide) (by decide)
  · exact isEscaped_reference ['g', 't', ';'] (by simp) (by decide) (by decide)
  · exact isEscaped_reference ['q', 'u', 'o', 't', ';'] (by simp) (by decide) (by decide)
  · exact isEscaped_reference ['#', 'x', '2', '7', ';'] (by simp) (by decide) (by decide)
  · rename_i notAmp notLess notGreater notDouble notSingle
    exact isEscaped_singleton ⟨notLess, notGreater, notDouble, notSingle⟩ notAmp

theorem isEscaped_escape (t : Text) : IsEscaped (escape t) := by
  induction t with
  | nil => exact isEscaped_nil
  | cons c rest ih =>
    rw [escape, List.flatMap_cons]
    exact (isEscaped_escapeChar c).append ih

theorem IsEscaped.tail {a b : Text} (escaped : IsEscaped (a ++ b)) : IsEscaped b where
  plain := fun c member => escaped.plain c (List.mem_append_right a member)
  reference := by
    rintro before after rfl
    exact escaped.reference (a ++ before) after (List.append_assoc ..).symm

theorem exists_escapeChar_of_mem_references {r : Text} (known : r ∈ references) : ∃ c, escapeChar c = r := by
  have all : references = ['&', '<', '>', '"', '\''].map escapeChar := by decide
  rw [all] at known
  obtain ⟨c, _, same⟩ := List.mem_map.mp known
  exact ⟨c, same⟩

/-- An escaped text begins with what a character is escaped to. -/
theorem IsEscaped.exists_escapeChar {c : Char} {t : Text} (escaped : IsEscaped (c :: t)) :
    ∃ d rest, c :: t = escapeChar d ++ rest := by
  by_cases isAmp : c = '&'
  · subst isAmp
    obtain ⟨r, known, rest, front⟩ := escaped.reference [] t rfl
    obtain ⟨d, rfl⟩ := exists_escapeChar_of_mem_references known
    exact ⟨d, rest, front.symm⟩
  · obtain ⟨notLess, notGreater, notDouble, notSingle⟩ := escaped.plain c List.mem_cons_self
    refine ⟨c, t, ?_⟩
    unfold escapeChar
    split <;> first | contradiction | rfl

theorem escapeChar_ne_nil (c : Char) : escapeChar c ≠ [] := by
  unfold escapeChar
  split <;> simp

theorem IsEscaped.exists_escape {t : Text} (escaped : IsEscaped t) : ∃ raw, escape raw = t := by
  cases t with
  | nil => exact ⟨[], rfl⟩
  | cons c t =>
    obtain ⟨d, rest, split⟩ := escaped.exists_escapeChar
    -- What follows the first escaped character is shorter.
    have shorter : rest.length < (c :: t).length := by
      have some := List.length_pos_iff.mpr (escapeChar_ne_nil d)
      rw [split, List.length_append]
      omega
    rw [split] at escaped
    obtain ⟨raw, same⟩ := escaped.tail.exists_escape
    exact ⟨d :: raw, by rw [split, ← same, escape, List.flatMap_cons, escape]⟩
termination_by t.length

theorem isEscaped_iff {t : Text} : IsEscaped t ↔ ∃ raw, escape raw = t := by
  constructor
  · exact IsEscaped.exists_escape
  · rintro ⟨raw, rfl⟩
    exact isEscaped_escape raw

end Playground.Markup
