import Playground.Text.Blank

namespace Playground.Text

variable {p q : Char → Bool} {t : Text}

theorem splitBy_of_not_mem (none : ∀ c ∈ t, p c = false) : splitBy p t = [t] := by
  induction t with
  | nil => rfl
  | cons c t ih =>
    rw [splitBy, none c List.mem_cons_self, if_neg (by decide),
      ih fun d member => none d (List.mem_cons_of_mem c member)]

/-- The pieces hold characters of the text, and none at which it is cut. -/
theorem of_mem_splitBy {piece : Text} {c : Char} (isPiece : piece ∈ splitBy p t) (member : c ∈ piece) :
    c ∈ t ∧ p c = false := by
  induction t generalizing piece with
  | nil =>
    obtain rfl := List.mem_singleton.mp isPiece
    contradiction
  | cons d t ih =>
    rw [splitBy] at isPiece
    split at isPiece
    · rcases List.mem_cons.mp isPiece with rfl | later
      · contradiction
      · exact (ih later member).imp_left (List.mem_cons_of_mem d)
    · rename_i kept
      cases pieces : splitBy p t with
      | nil => exact absurd pieces (splitBy_ne_nil p t)
      | cons first more =>
        simp only [pieces, List.mem_cons] at isPiece ih
        rcases isPiece with rfl | later
        · rcases List.mem_cons.mp member with rfl | inFirst
          · exact ⟨List.mem_cons_self, Bool.eq_false_iff.mpr kept⟩
          · exact (ih (Or.inl rfl) inFirst).imp_left (List.mem_cons_of_mem d)
        · exact (ih (Or.inr later) member).imp_left (List.mem_cons_of_mem d)

theorem mem_of_mem_splitBy {piece : Text} {c : Char} (isPiece : piece ∈ splitBy p t) (member : c ∈ piece) : c ∈ t :=
  (of_mem_splitBy isPiece member).1

theorem not_mem_of_mem_lines {line : Text} (isLine : line ∈ lines t) : '\n' ∉ line := by
  intro member
  have other := (of_mem_splitBy isLine member).2
  contradiction

theorem lines_of_not_mem (single : '\n' ∉ t) : lines t = [t] := by
  refine splitBy_of_not_mem fun c member => ?_
  rw [beq_eq_false_iff_ne]
  rintro rfl
  exact single member

/-- Joining lines and cutting again gives the lines back. -/
theorem lines_unlines {ls : List Text} (some : ls ≠ []) (single : ∀ l ∈ ls, '\n' ∉ l) : lines (unlines ls) = ls := by
  induction ls with
  | nil => contradiction
  | cons l ls ih =>
    cases ls with
    | nil => exact lines_of_not_mem (single l List.mem_cons_self)
    | cons next rest =>
      have later := ih (List.cons_ne_nil next rest) fun other member => single other (List.mem_cons_of_mem l member)
      have first := lines_of_not_mem (single l List.mem_cons_self)
      rw [lines, unlines] at later
      rw [lines] at first
      rw [lines, unlines, joinWith, List.append_assoc, List.singleton_append, splitBy_append_cons (by decide), first,
        later, List.singleton_append]

theorem isEmpty_dropEndWhile (p : Char → Bool) (t : Text) : (dropEndWhile p t).isEmpty = t.all p := by
  induction t with
  | nil => rfl
  | cons c t ih =>
    rw [dropEndWhile, List.all_cons, ← ih]
    split
    · rename_i gone
      cases isBlank : p c <;> simp [gone]
    · rename_i kept
      have some : (dropEndWhile p t).isEmpty = false := List.isEmpty_eq_false_iff.mpr kept
      rw [some, Bool.and_false, List.isEmpty_cons]

/-- What is left of a text starts as the text does. -/
theorem prefix_dropEndWhile (p : Char → Bool) (t : Text) : dropEndWhile p t <+: t := by
  induction t with
  | nil => exact List.prefix_rfl
  | cons c t ih =>
    rw [dropEndWhile]
    split
    · split
      · exact List.nil_prefix
      · exact List.cons_prefix_cons.mpr ⟨rfl, List.nil_prefix⟩
    · exact List.cons_prefix_cons.mpr ⟨rfl, ih⟩

theorem all_dropWhile (p : Char → Bool) (t : Text) : (t.dropWhile p).all p = t.all p := by
  calc
    (t.dropWhile p).all p = ((t.takeWhile p).all p && (t.dropWhile p).all p) := by
      rw [List.all_takeWhile, Bool.true_and]
    _ = t.all p := by rw [← List.all_append, List.takeWhile_append_dropWhile]

/-- Trimming leaves nothing of a blank text, and something of any other. -/
theorem isEmpty_trim (t : Text) : t.trim.isEmpty = t.allBlank := by
  rw [trim, trimEnd, isEmpty_dropEndWhile, trimStart, all_dropWhile, allBlank]

theorem trim_eq_nil_iff : t.trim = [] ↔ t.allBlank = true := by
  rw [← List.isEmpty_iff, isEmpty_trim]

/-- What holds of the characters at which a text is cut holds of all others if it holds in every piece. -/
theorem all_splitBy (separators : ∀ c, p c = true → q c = true) : (splitBy p t).all (·.all q) = t.all q := by
  induction t with
  | nil => rfl
  | cons c t ih =>
    rw [splitBy]
    split
    · rename_i isSeparator
      simp [ih, separators c isSeparator]
    · cases pieces : splitBy p t with
      | nil => exact absurd pieces (splitBy_ne_nil p t)
      | cons first more =>
        rw [pieces] at ih
        simp only [List.all_cons, ← ih, Bool.and_assoc]

theorem allBlank_lines (t : Text) : t.lines.all allBlank = t.allBlank := by
  refine all_splitBy fun c isLineFeed => ?_
  rw [beq_iff_eq.mp isLineFeed]
  decide

end Playground.Text
