import Playground.Proofs.Text.Lines
import Playground.Statement.TruthWord

namespace Playground.Text

/-- A text that starts with a character that is not blank. -/
def IsFlush (t : Text) : Prop := ∃ c rest, t = c :: rest ∧ isBlank c = false

variable {t : Text}

theorem isFlush_cons {c : Char} {rest : Text} : IsFlush (c :: rest) ↔ isBlank c = false := by
  constructor
  · rintro ⟨_, _, same, visible⟩
    obtain ⟨rfl, rfl⟩ := List.cons.inj same
    exact visible
  · intro visible
    exact ⟨c, rest, rfl, visible⟩

theorem IsFlush.append (flush : IsFlush t) (u : Text) : IsFlush (t ++ u) := by
  obtain ⟨c, rest, rfl, visible⟩ := flush
  exact ⟨c, rest ++ u, rfl, visible⟩

theorem IsFlush.ne_nil (flush : IsFlush t) : t ≠ [] := by
  rintro rfl
  obtain ⟨c, rest, same, _⟩ := flush
  contradiction

/-- What is left of a text does not end as it ended before. -/
theorem dropEndWhile_ne_concat {p : Char → Bool} (t front : Text) {c : Char} (dropped : p c = true) :
    dropEndWhile p t ≠ front ++ [c] := by
  induction t generalizing front with
  | nil => simp [dropEndWhile]
  | cons d t ih =>
    rw [dropEndWhile]
    split
    · split
      · simp
      · intro same
        cases front with
        | nil => simp_all
        | cons e front => simp at same
    · intro same
      cases front with
      | nil => simp_all
      | cons e front => exact ih front (List.cons.inj same).2

theorem isFlush_trim (some : trim t ≠ []) : IsFlush (trim t) := by
  obtain ⟨rest, whole⟩ := prefix_dropEndWhile isBlank (trimStart t)
  rw [trim, trimEnd] at some ⊢
  obtain ⟨c, kept, starts⟩ := List.exists_cons_of_ne_nil some
  rw [starts, List.cons_append] at whole
  rw [starts, isFlush_cons]
  have head := List.head?_dropWhile_not isBlank t
  rw [← trimStart, ← whole] at head
  simpa using head

theorem trim_ne_concat (t front : Text) {c : Char} (blank : isBlank c = true) : trim t ≠ front ++ [c] :=
  dropEndWhile_ne_concat (trimStart t) front blank

/-- A text that ends with a character that is not blank. -/
def EndsFlush (t : Text) : Prop := ∃ front c, t = front ++ [c] ∧ isBlank c = false

theorem EndsFlush.ne_nil (flush : EndsFlush t) : t ≠ [] := by
  rintro rfl
  obtain ⟨front, c, same, _⟩ := flush
  simp at same

/-- Behind a blank in a trimmed text there is something, and it ends with no blank. -/
theorem endsFlush_of_trim_eq {front rest : Text} {c : Char} (blank : isBlank c = true)
    (trimmed : trim t = front ++ [c] ++ rest) : EndsFlush rest := by
  rcases List.eq_nil_or_concat rest with rfl | ⟨inner, last, rfl⟩
  · rw [List.append_nil] at trimmed
    exact absurd trimmed (trim_ne_concat t front blank)
  · rw [List.concat_eq_append, ← List.append_assoc] at trimmed
    refine ⟨inner, last, List.concat_eq_append, ?_⟩
    rw [Bool.eq_false_iff]
    intro blankToo
    exact trim_ne_concat t _ blankToo trimmed

/-- A blank cuts a text in two, each with words of its own. -/
theorem words_append_cons {c : Char} (blank : isBlank c = true) (a b : Text) :
    words (a ++ c :: b) = words a ++ words b := by
  rw [words, splitBy_append_cons blank, List.filter_append]
  rfl

theorem words_eq_nil_iff : words t = [] ↔ t.allBlank = true := by
  have pieces : (splitBy isBlank t).all (·.all isBlank) = t.allBlank := all_splitBy fun c blank => blank
  rw [words, List.filter_eq_nil_iff, ← pieces, List.all_eq_true]
  refine forall₂_congr fun piece isPiece => ?_
  cases piece with
  | nil => simp
  | cons c rest =>
    have visible := (of_mem_splitBy isPiece List.mem_cons_self).2
    simp [visible]

theorem EndsFlush.words_ne_nil (flush : EndsFlush t) : words t ≠ [] := by
  obtain ⟨front, c, rfl, visible⟩ := flush
  rw [ne_eq, words_eq_nil_iff, allBlank, List.all_append, List.all_cons, visible]
  simp

theorem isFlush_of_mem_words {word : Text} (isWord : word ∈ words t) : IsFlush word := by
  obtain ⟨isPiece, some⟩ := List.mem_filter.mp isWord
  obtain ⟨c, rest, rfl⟩ := List.exists_cons_of_ne_nil (l := word) (by simpa using some)
  exact isFlush_cons.mpr (of_mem_splitBy isPiece List.mem_cons_self).2

theorem IsFlush.replaceWord (flush : IsFlush t) {new : Text} (newFlush : IsFlush new) (word : Text) :
    IsFlush (replaceWord word new t) := by
  obtain ⟨c, rest, rfl, visible⟩ := flush
  rw [Text.replaceWord, replaceWordFrom]
  split
  · exact newFlush.append _
  · exact isFlush_cons.mpr visible

theorem IsFlush.substituteTruth (flush : IsFlush t) : IsFlush (substituteTruth t) :=
  (flush.replaceWord ⟨'T', _, rfl, by decide⟩ _).replaceWord ⟨'F', _, rfl, by decide⟩ _

theorem allBlank_repeated (blank : t.allBlank = true) (n : Nat) : (t.repeated n).allBlank = true := by
  induction n with
  | zero => rfl
  | succ n ih =>
    rw [allBlank] at blank ih ⊢
    rw [repeated, List.all_append, blank, ih, Bool.and_true]

/-- The blanks in front of a text behind blanks are no others exactly if the text is flush. -/
theorem takeWhile_isBlank_eq_iff {indentation body : Text} (blank : indentation.allBlank = true) (some : body ≠ []) :
    (indentation ++ body).takeWhile isBlank = indentation ↔ IsFlush body := by
  obtain ⟨c, rest, rfl⟩ := List.exists_cons_of_ne_nil some
  rw [List.takeWhile_append_of_pos (List.all_eq_true.mp blank), isFlush_cons, List.takeWhile_cons]
  cases isBlank c <;> simp

end Playground.Text
