import Playground.Proofs.Yaml.Escape
import Playground.Proofs.Yaml.Quoted

namespace Playground.Yaml

variable {t content rest : Text}

/-- What double quotes hold as it is means nothing but itself to the reader, spaces apart. -/
theorem of_isVerbatim {c : Char} (verbatim : isVerbatim c = true) :
    c ≠ '"' ∧ c ≠ '\\' ∧ isBreak c = false ∧ (c ≠ ' ' → isSpaceOrTab c = false) := by
  simp only [isVerbatim, Bool.and_eq_true, Bool.or_eq_true, decide_eq_true_eq, Bool.not_eq_true', Bool.or_eq_false_iff,
    beq_eq_false_iff_ne] at verbatim
  obtain ⟨range, ⟨⟨⟨notQuote, notEscape⟩, notLine⟩, notParagraph⟩, _⟩ := verbatim
  have notFeed : c ≠ '\n' := by
    rintro rfl
    revert range
    decide
  have notTab : c ≠ '\t' := by
    rintro rfl
    revert range
    decide
  refine ⟨notQuote, notEscape, ?_, ?_⟩
  · simp [isBreak, notFeed, notLine, notParagraph]
  · intro notSpace
    simp [isSpaceOrTab, notSpace, notTab]

theorem solid_escapeOf (c : Char) (t : Text) : Solid (escapeOf c ++ t) := by
  obtain ⟨written, escaped, _⟩ := escapeOf_reads c
  exact ⟨'\\', written ++ t, by rw [escaped, List.cons_append], by decide, by decide⟩

theorem solid_escapedBreak (indent : Nat) (next t : Text) : Solid ((escapedBreak indent next).1 ++ t) := by
  unfold escapedBreak
  split <;> exact ⟨'\\', _, rfl, by decide, by decide⟩

theorem snd_escapedBreak_le (indent : Nat) (next : Text) : (escapedBreak indent next).2 ≤ indent + 1 := by
  unfold escapedBreak
  split <;> omega

section
variable (indent : Nat) (first afterEscape : Bool) (column : Nat) {c : Char} (t : Text)

theorem doubleFrom_verbatim (verbatim : isVerbatim c = true) :
    doubleFrom indent first afterEscape column (c :: t) =
      if (!first && !t.isEmpty) && (c == ' ' || afterEscape) && lineWidth < column then
        (escapedBreak indent (c :: t)).1 ++
          c :: doubleFrom indent false false ((escapedBreak indent (c :: t)).2 + 1) t
      else c :: doubleFrom indent false false (column + 1) t := by
  rw [doubleFrom, if_pos verbatim]

theorem doubleFrom_escape (escaped : isVerbatim c = false) :
    doubleFrom indent first afterEscape column (c :: t) =
      if (!first && !t.isEmpty) && lineWidth + 1 < column + (escapeOf c).length then
        escapeOf c ++ (escapedBreak indent t).1 ++ doubleFrom indent false true (escapedBreak indent t).2 t
      else escapeOf c ++ doubleFrom indent false true (column + (escapeOf c).length) t := by
  rw [doubleFrom, if_neg (by simp [escaped])]

end

theorem steady_doubleFrom (indent : Nat) (first afterEscape : Bool) (column : Nat) (t rest : Text) :
    Steady (doubleFrom indent first afterEscape column t ++ rest) := by
  induction t generalizing first afterEscape column with
  | nil => exact Solid.steady ⟨'"', rest, rfl, by decide, by decide⟩
  | cons c t ih =>
    cases verbatim : isVerbatim c with
    | true =>
      obtain ⟨_, _, notBreak, blankOnly⟩ := of_isVerbatim verbatim
      rw [doubleFrom_verbatim indent first afterEscape column t verbatim]
      split
      · rw [List.append_assoc]
        exact (solid_escapedBreak ..).steady
      · by_cases space : c = ' '
        · rw [space]
          exact (ih ..).space
        · exact Solid.steady ⟨c, _, rfl, blankOnly space, notBreak⟩
    | false =>
      rw [doubleFrom_escape indent first afterEscape column t verbatim]
      split
      · rw [List.append_assoc, List.append_assoc]
        exact (solid_escapeOf ..).steady
      · rw [List.append_assoc]
        exact (solid_escapeOf ..).steady

theorem readEscape_newLine {indent : Nat} (positive : 0 < indent) {t : Text} (solid : Solid t) :
    readEscape (newLine indent ++ t) = .ok ([], t) := by
  have passes := passBlankLines_indentation true 0 indent (by omega) solid
  rw [newLine, List.cons_append, readEscape, passes]
  rfl

/-- A verbatim character comes back, with or without a line break in front of it. -/
theorem Closes.verbatim {c : Char} (closes : Closes true t content rest) (verbatim : isVerbatim c = true)
    (steady : Steady t) : Closes true (c :: t) (c :: content) rest := by
  obtain ⟨notQuote, notEscape, notBreak, blankOnly⟩ := of_isVerbatim verbatim
  by_cases space : c = ' '
  · rw [space]
    exact closes.space steady
  · exact closes.char notQuote (fun _ => notEscape) (blankOnly space) notBreak

/-- An escaped line break is passed over. If a space comes next, it is escaped, too. -/
theorem Closes.escapedBreak {indent : Nat} (positive : 0 < indent) {c : Char} (next : Text)
    (closes : Closes true t content rest) (verbatim : isVerbatim c = true) :
    Closes true ((escapedBreak indent (c :: next)).1 ++ c :: t) (c :: content) rest := by
  obtain ⟨notQuote, notEscape, notBreak, blankOnly⟩ := of_isVerbatim verbatim
  by_cases space : c = ' '
  · subst space
    have space : readEscape ([' '] ++ t) = .ok ([' '], t) := rfl
    have lead := (closes.escape space).escape (readEscape_newLine positive ⟨'\\', ' ' :: t, rfl, by decide, by decide⟩)
    simpa [Yaml.escapedBreak] using lead
  · have here : Closes true (c :: t) (c :: content) rest :=
      closes.char notQuote (fun _ => notEscape) (blankOnly space) notBreak
    have lead := here.escape (readEscape_newLine positive ⟨c, t, rfl, blankOnly space, notBreak⟩)
    simpa [Yaml.escapedBreak, space] using lead

/-- A character comes back with the text behind it, whether or not a line is broken between them. -/
theorem closes_doubleFrom_cons {indent : Nat} (positive : 0 < indent) (c : Char)
    (later : ∀ first afterEscape column, Closes true (doubleFrom indent first afterEscape column t ++ rest) t rest)
    (laterBroken : t ≠ [] → Closes true
      ((escapedBreak indent t).1 ++ (doubleFrom indent false true (escapedBreak indent t).2 t ++ rest)) t rest)
    (first afterEscape : Bool) (column : Nat) :
    Closes true (doubleFrom indent first afterEscape column (c :: t) ++ rest) (c :: t) rest := by
  cases verbatim : isVerbatim c with
  | true =>
    rw [doubleFrom_verbatim indent first afterEscape column t verbatim]
    split
    · have broken := (later false false ((escapedBreak indent (c :: t)).2 + 1)).escapedBreak positive t verbatim
      simpa using broken
    · exact (later _ _ _).verbatim verbatim (steady_doubleFrom ..)
  | false =>
    obtain ⟨written, escape, reads⟩ := escapeOf_reads c
    rw [doubleFrom_escape indent first afterEscape column t verbatim]
    split
    · rename_i breaks
      have some : t ≠ [] := by
        rintro rfl
        simp at breaks
      have broken := (laterBroken some).escape (reads _)
      rw [escape]
      simpa using broken
    · have plain := (later false true (column + (escapeOf c).length)).escape (reads _)
      rw [escape] at plain ⊢
      simpa using plain

/-- Double quotes give every text back, wherever the writer breaks its lines. Behind an escaped break the column is so
small that the next character is never broken off again. -/
theorem closes_doubleFrom {indent : Nat} (positive : 0 < indent) (narrow : indent < lineWidth) (t rest : Text) :
    (∀ first afterEscape column, Closes true (doubleFrom indent first afterEscape column t ++ rest) t rest) ∧
      (t ≠ [] → Closes true
        ((escapedBreak indent t).1 ++ (doubleFrom indent false true (escapedBreak indent t).2 t ++ rest)) t rest) := by
  induction t with
  | nil => exact ⟨fun _ _ _ => closes_quote rest (by simp), fun some => absurd rfl some⟩
  | cons c t ih =>
    have unbroken := closes_doubleFrom_cons positive c ih.1 ih.2
    refine ⟨unbroken, fun _ => ?_⟩
    cases verbatim : isVerbatim c with
    | true =>
      have stays : ¬ lineWidth < (escapedBreak indent (c :: t)).2 := by
        have reached := snd_escapedBreak_le indent (c :: t)
        omega
      rw [doubleFrom_verbatim indent false true _ t verbatim, if_neg (by simp [stays])]
      exact (ih.1 false false _).escapedBreak positive t verbatim
    | false =>
      have notSpace : c ≠ ' ' := by
        rintro rfl
        contradiction
      have solid : Solid (doubleFrom indent false true (escapedBreak indent (c :: t)).2 (c :: t) ++ rest) := by
        rw [doubleFrom_escape indent false true _ t verbatim]
        split <;> simp only [List.append_assoc] <;> exact solid_escapeOf ..
      have broken := (unbroken false true (escapedBreak indent (c :: t)).2).escape (readEscape_newLine positive solid)
      simpa [escapedBreak, notSpace] using broken

theorem isVerbatim_hexDigit : ∀ n < 16, isVerbatim (Nat.digitChar n).toUpper = true := by decide

theorem isVerbatim_of_mem_upperHex {width n : Nat} {c : Char} (member : c ∈ Text.upperHex width n) :
    isVerbatim c = true := by
  obtain ⟨digit, inHex, rfl⟩ := List.mem_map.mp member
  clear member
  induction width generalizing n with
  | zero => contradiction
  | succ width ih =>
    rw [Text.hex, List.mem_append, List.mem_singleton] at inHex
    rcases inHex with front | rfl
    · exact ih front
    · exact isVerbatim_hexDigit (n % 16) (Nat.mod_lt n (by decide))

theorem mem_escapeOf {c d : Char} (member : c ∈ escapeOf d) : isVerbatim c = true ∨ c = '"' ∨ c = '\\' := by
  have named {t : Text} (letters : t.all (fun c => isVerbatim c || (c == '"' || c == '\\')) = true) (inside : c ∈ t) :
      isVerbatim c = true ∨ c = '"' ∨ c = '\\' := by
    simpa using List.all_eq_true.mp letters c inside
  have numbered (sign : Char) (width : Nat) (isSign : isVerbatim sign = true)
      (inside : c ∈ '\\' :: sign :: Text.upperHex width d.toNat) : isVerbatim c = true ∨ c = '"' ∨ c = '\\' := by
    rcases List.mem_cons.mp inside with rfl | inside
    · simp
    · rcases List.mem_cons.mp inside with rfl | digit
      · exact Or.inl isSign
      · exact Or.inl (isVerbatim_of_mem_upperHex digit)
  unfold escapeOf at member
  split at member
  case h_16 =>
    dsimp only at member
    split at member
    · exact numbered 'x' 2 (by decide) member
    split at member
    · exact numbered 'u' 4 (by decide) member
    · exact numbered 'U' 8 (by decide) member
  all_goals exact named (by decide) member

theorem mem_escapedBreak {indent : Nat} {next : Text} {c : Char} (member : c ∈ (escapedBreak indent next).1) :
    c = '\\' ∨ c = '\n' ∨ c = ' ' := by
  unfold escapedBreak at member
  split at member
  · simp only [newLine, List.cons_append, List.mem_cons, List.mem_append, List.mem_replicate, List.not_mem_nil,
      or_false] at member
    rcases member with rfl | rfl | ⟨_, rfl⟩ | rfl <;> simp
  · simp only [newLine, List.mem_cons, List.mem_replicate] at member
    rcases member with rfl | rfl | ⟨_, rfl⟩ <;> simp

theorem mem_doubleFrom {indent : Nat} {first afterEscape : Bool} {column : Nat} {t : Text} {c : Char}
    (member : c ∈ doubleFrom indent first afterEscape column t) :
    isVerbatim c = true ∨ c = '"' ∨ c = '\\' ∨ c = '\n' := by
  have ofBreak {next : Text} (inBreak : c ∈ (escapedBreak indent next).1) :
      isVerbatim c = true ∨ c = '"' ∨ c = '\\' ∨ c = '\n' := by
    rcases mem_escapedBreak inBreak with rfl | rfl | rfl <;> decide
  have ofEscape {d : Char} (inEscape : c ∈ escapeOf d) : isVerbatim c = true ∨ c = '"' ∨ c = '\\' ∨ c = '\n' := by
    rcases mem_escapeOf inEscape with verbatim | rfl | rfl
    · exact Or.inl verbatim
    · simp
    · simp
  induction t generalizing first afterEscape column with
  | nil =>
    have quote : c = '"' := by simpa [doubleFrom] using member
    simp [quote]
  | cons d t ih =>
    cases verbatim : isVerbatim d with
    | true =>
      rw [doubleFrom_verbatim indent first afterEscape column t verbatim] at member
      split at member
      · rw [List.mem_append, List.mem_cons] at member
        rcases member with inBreak | rfl | inTail
        · exact ofBreak inBreak
        · exact Or.inl verbatim
        · exact ih inTail
      · rcases List.mem_cons.mp member with rfl | inTail
        · exact Or.inl verbatim
        · exact ih inTail
    | false =>
      rw [doubleFrom_escape indent first afterEscape column t verbatim] at member
      split at member
      · rw [List.mem_append, List.mem_append] at member
        rcases member with (inEscape | inBreak) | inTail
        · exact ofEscape inEscape
        · exact ofBreak inBreak
        · exact ih inTail
      · rcases List.mem_append.mp member with inEscape | inTail
        · exact ofEscape inEscape
        · exact ih inTail

end Playground.Yaml
