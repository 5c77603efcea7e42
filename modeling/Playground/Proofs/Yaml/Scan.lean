import Playground.Proofs.Yaml.Place
import Playground.Proofs.Yaml.Plain
import Playground.Proofs.Yaml.Quoted

namespace Playground.Yaml

/-- What a plain scalar starts with is no sign of its own. -/
theorem token_plain {s : Scan} {c : Char} {more : Text} (start : Scan.startsPlain false c more = true)
    (block : s.inFlow = false) (noMarker : (s.column == 0 && atAnyMarker (c :: more)) = false) (fuel : Nat) :
    s.token fuel c more = s.plain fuel := by
  have noStart : (s.column == 0 && atMarker startMarker (c :: more)) = false := by
    simp only [atAnyMarker, Bool.and_eq_false_imp, Bool.or_eq_false_iff] at noMarker ⊢
    exact fun first => (noMarker first).1
  have noEnd : (s.column == 0 && atMarker endMarker (c :: more)) = false := by
    simp only [atAnyMarker, Bool.and_eq_false_imp, Bool.or_eq_false_iff] at noMarker ⊢
    exact fun first => (noMarker first).2
  have choice := start
  simp only [Scan.startsPlain, Bool.or_eq_true, Bool.not_eq_true', Bool.or_eq_false_iff, Bool.and_eq_true,
    beq_iff_eq, Bool.not_false, Bool.true_and] at choice
  unfold Scan.token
  rw [noStart, noEnd, block, start]
  rcases choice with ⟨_, unsigned⟩ | ⟨noGap, sign⟩
  · simp at unsigned
    simp [unsigned]
  · rcases sign with rfl | rfl | rfl <;> simp [noGap]

theorem startsPlain_of_wordChar {c : Char} (word : c.isAlphanum = true ∨ c = '_') (more : Text) :
    Scan.startsPlain false c more = true := by
  have others := not_mem_of_wordChar "-?:,[]\x7b\x7d#&*!|>'\"%@`".toList word (by decide)
  have unsigned : "-?:,[]\x7b\x7d#&*!|>'\"%@`".toList.contains c = false := by simpa using others
  rw [Scan.startsPlain, (gap_of_wordChar word).1, (gap_of_wordChar word).2, unsigned]
  rfl

theorem gap_of_startsPlain {c : Char} {more : Text} (start : Scan.startsPlain false c more = true) :
    Scan.gap false (c :: more) = (0, false) := by
  simp only [Scan.startsPlain, Bool.or_eq_true, Bool.not_eq_true', Bool.or_eq_false_iff, Bool.and_eq_true,
    beq_iff_eq, Bool.not_false, Bool.true_and] at start
  rcases start with ⟨⟨notBlank, notBreak⟩, unsigned⟩ | ⟨_, sign⟩
  · have noComment : c ≠ '#' := by
      rintro rfl
      exact absurd unsigned (by decide)
    exact Place.gap_of_solid ⟨c, more, rfl, notBlank, notBreak⟩ (by simpa using noComment)
  · rcases sign with rfl | rfl | rfl <;> exact Place.gap_of_solid ⟨_, more, rfl, by decide, by decide⟩ (by simp)

theorem saveKey_of_not_allowed {s : Scan} (notAllowed : s.keyAllowed = false) : s.saveKey = .ok s := by
  rw [Scan.saveKey, notAllowed]
  rfl

namespace Place

variable {column : Nat} {indent : Int} {outers : List Int} {ts : List Token}

/-- The dash of an entry in the sequence that is open. -/
theorem Gives.dash {v : Text} (gives : Gives ⟨' ' :: v, column + 1, column, outers, true⟩ ts) :
    Gives ⟨'-' :: ' ' :: v, column, column, outers, true⟩ (.blockEntry :: ts) := by
  have ready : Scan.gap false ('-' :: ' ' :: v) = (0, false) :=
    gap_of_solid ⟨'-', ' ' :: v, rfl, by decide, by decide⟩ (by simp)
  refine gives_of_token [.blockEntry] rfl ready (Int.le_refl _) ?_
  intro line index tokens fuel _
  refine ⟨⟨' ' :: v, column + 1, column, outers, true⟩, line, index + 1, ?_, by simp, gives⟩
  have noStart : atMarker startMarker ('-' :: ' ' :: v) = false := rfl
  have noEnd : atMarker endMarker ('-' :: ' ' :: v) = false := rfl
  rw [Scan.token, noStart, noEnd, Bool.and_false, if_neg (by decide), if_neg (by decide)]
  simp [Scan.blockEntry, Scan.openBlock, scan, Scan.inFlow, atGap, isSpaceOrTab]
  rfl

/-- A quoted scalar as the value of a key. -/
theorem Gives.quoted {double : Bool} {written content rest : Text}
    (gives : ∀ column, Gives ⟨rest, column, indent, outers, false⟩ ts)
    (closes : Closes double (written ++ rest) content rest) (settled : indent ≤ column) :
    Gives ⟨quoteSign double :: (written ++ rest), column, indent, outers, false⟩ (.scalar content false :: ts) := by
  have ready : Scan.gap false (quoteSign double :: (written ++ rest)) = (0, false) := by
    cases double <;> exact gap_of_solid ⟨_, _, rfl, by decide, by decide⟩ (by simp [quoteSign])
  refine gives_of_token [.scalar content false] rfl ready settled ?_
  intro line index tokens fuel enough
  obtain ⟨column', line', index', moved⟩ :=
    advance_scan ⟨quoteSign double :: (written ++ rest), column, indent, outers, false⟩ line index tokens
      (written.length + 1)
  refine ⟨⟨rest, column', indent, outers, false⟩, line', index', ?_,
    by simp only [List.length_cons, List.length_append]; omega, gives column'⟩
  have noStart : atMarker startMarker (quoteSign double :: (written ++ rest)) = false := by
    cases double <;> rfl
  have noEnd : atMarker endMarker (quoteSign double :: (written ++ rest)) = false := by
    cases double <;> rfl
  have read (s : Scan) : s.token fuel (quoteSign double) (written ++ rest) = s.quoted fuel double := by
    rw [Scan.token, noStart, noEnd, Bool.and_false, if_neg (by decide), if_neg (by decide)]
    cases double <;> rfl
  have passed : (quoteSign double :: (written ++ rest)).length - rest.length = written.length + 1 := by
    simp only [List.length_cons, List.length_append]
    omega
  have found := closes fuel (by simp at enough ⊢; omega)
  rw [read, Scan.quoted, saveKey_of_not_allowed rfl]
  simp only [bind, Except.bind, pure, Except.pure, scan, List.drop_succ_cons, List.drop_zero, found] at moved ⊢
  rw [Scan.advanceTo, passed, moved, List.drop_left]
  rfl

/-- A plain scalar as the value of a key. The line that follows is passed to its first character. -/
theorem Gives.plain {written content rest : Text} {width : Nat} {c : Char} {more : Text}
    (gives : Gives ⟨rest, width, indent, outers, true⟩ ts)
    (reads : PlainReads (indent + 1) (written ++ '\n' :: (List.replicate width ' ' ++ rest)) content rest)
    (here : written ++ '\n' :: (List.replicate width ' ' ++ rest) = c :: more)
    (start : Scan.startsPlain false c more = true) (settled : indent ≤ column) (inside : 0 < column) :
    Gives ⟨written ++ '\n' :: (List.replicate width ' ' ++ rest), column, indent, outers, false⟩
      (.scalar content true :: ts) := by
  have ready : Scan.gap false (written ++ '\n' :: (List.replicate width ' ' ++ rest)) = (0, false) := by
    rw [here]
    exact gap_of_startsPlain start
  refine gives_of_token [.scalar content true] here ready settled ?_
  intro line index tokens fuel enough
  obtain ⟨line', index', moved⟩ := advance_newLine
    (p := ⟨written ++ '\n' :: (List.replicate width ' ' ++ rest), column, indent, outers, false⟩) rfl line index tokens
  refine ⟨⟨rest, width, indent, outers, true⟩, line', index', ?_,
    by simp only [List.length_cons, List.length_append, List.length_replicate]; omega, gives⟩
  have found := reads fuel (by simp at enough ⊢; omega)
  have noMarker : (column == 0 && atAnyMarker (c :: more)) = false := by
    rw [beq_eq_false_iff_ne.mpr (by omega), Bool.false_and]
  have passed : (written ++ '\n' :: (List.replicate width ' ' ++ rest)).length - rest.length =
      written.length + 1 + width := by
    simp only [List.length_cons, List.length_append, List.length_replicate]
    omega
  rw [token_plain start rfl noMarker, Scan.plain, saveKey_of_not_allowed rfl]
  simp only [bind, Except.bind, pure, Except.pure, scan, Scan.inFlow, List.isEmpty_nil, Bool.not_true, found] at moved ⊢
  rw [Scan.advanceTo, passed, moved]
  rfl

section
variable (column : Nat) (indent : Int) (outers : List Int) (name after : Text) (line index : Nat) (tokens : List Token)

/-- The state at the colon behind a word, which is still only a possible key. -/
def atColon : Scan :=
  { scan ⟨':' :: after, column + name.length, indent, outers, false⟩ line (index + name.length)
      (tokens ++ [.scalar name true]) with
    pending := some ⟨tokens.length, indent == column, index, line, column⟩ }

theorem plain_word (word : IsWord name) (gap : atGap after = true) (fuel : Nat) :
    (scan ⟨name ++ ':' :: after, column, indent, outers, true⟩ line index tokens).plain (fuel + 1) =
      .ok (atColon column indent outers name after line index tokens) := by
  have inline (c : Char) (member : c ∈ name) : isBreak c = false ∧ c ≠ '\uFEFF' := by
    have noMark := not_mem_of_wordChar ['\uFEFF'] (word.chars c member) (by decide)
    exact ⟨(gap_of_wordChar (word.chars c member)).2, by simpa using noMark⟩
  let key : PendingKey := ⟨tokens.length, indent == column, index, line, column⟩
  have saved : (scan ⟨name ++ ':' :: after, column, indent, outers, true⟩ line index tokens).saveKey =
      .ok { scan ⟨name ++ ':' :: after, column, indent, outers, true⟩ line index tokens with pending := some key } :=
    rfl
  have moved := Scan.advance_pending (some key) name.length
    (scan ⟨name ++ ':' :: after, column, indent, outers, true⟩ line index tokens)
  rw [advance_inline rfl inline] at moved
  have passed : (name ++ ':' :: after).length - (':' :: after).length = name.length := by simp
  have found := word.readKey gap (indent + 1) fuel
  rw [Scan.plain, saved]
  simp only [bind, Except.bind, pure, Except.pure, scan, Scan.inFlow, List.isEmpty_nil, Bool.not_true, found] at moved ⊢
  rw [Scan.advanceTo, passed, moved]
  rfl

theorem dropStale_atColon (short : name.length ≤ maxKeyLength) :
    (atColon column indent outers name after line index tokens).dropStale =
      .ok (atColon column indent outers name after line index tokens) := by
  have fits : ¬ maxKeyLength < name.length := by omega
  simp [Scan.dropStale, atColon, scan, Scan.fresh, Scan.isStale, fits, bind, Except.bind, pure, Except.pure]

theorem value_atColon (settled : indent ≤ column) :
    (atColon column indent outers name after line index tokens).value =
      .ok (scan ⟨after, column + name.length + 1, column, if indent < column then indent :: outers else outers, false⟩
        line (index + name.length + 1)
        (tokens ++ ((if indent < column then [.blockMappingStart, .key] else [.key]) ++
          [.scalar name true, .value]))) := by
  by_cases opens : indent < column
  · simp [atColon, Scan.value, Scan.inFlow, scan, Scan.openBlock, opens, Scan.splice, Scan.emit, Scan.advance,
      pure, Except.pure]
  · have same : indent = column := by omega
    simp [atColon, Scan.value, Scan.inFlow, scan, Scan.openBlock, Scan.splice, Scan.emit, Scan.advance, same,
      pure, Except.pure]

end

/-- A word with a colon behind it is a key. It starts a mapping if it is indented more than the block around it. -/
theorem Gives.key {name after : Text}
    (gives : Gives ⟨after, column + name.length + 1, column, if indent < column then indent :: outers else outers,
      false⟩ ts)
    (word : IsWord name) (short : name.length ≤ maxKeyLength) (gap : atGap after = true) (settled : indent ≤ column) :
    Gives ⟨name ++ ':' :: after, column, indent, outers, true⟩
      ((if indent < column then [.blockMappingStart, .key] else [.key]) ++ .scalar name true :: .value :: ts) := by
  obtain ⟨c, more, first⟩ := List.exists_cons_of_ne_nil word.nonempty
  have here : name ++ ':' :: after = c :: (more ++ ':' :: after) := by rw [first, List.cons_append]
  have start := startsPlain_of_wordChar (word.chars c (by simp [first])) (more ++ ':' :: after)
  have noMarker : atAnyMarker (c :: (more ++ ':' :: after)) = false := here ▸ word.noMarker (':' :: after)
  have ready := gap_of_solid (word.solid (':' :: after)) (word.noComment _)
  intro line index tokens fuel enough
  have some : 0 < name.length := List.length_pos_iff.mpr word.nonempty
  obtain ⟨fuel, rfl⟩ : ∃ more, fuel = more + 2 := ⟨fuel - 2, by simp at enough; omega⟩
  -- The word is read as a scalar that may be a key; at the colon it becomes one.
  have isValue (s : Scan) : s.token (fuel + 1) ':' after = s.value := by
    have noStart : atMarker startMarker (':' :: after) = false := rfl
    have noEnd : atMarker endMarker (':' :: after) = false := rfl
    rw [Scan.token, noStart, noEnd, Bool.and_false]
    simp [gap]
  have atSign : (atColon column indent outers name after line index tokens).rest = ':' :: after := rfl
  have fresh := dropStale_atColon column indent outers name after line index tokens short
  have inside : (column : Int) ≤ (column + name.length : Nat) := by omega
  have step := Scan.run_settled atSign rfl fresh (Int.le_trans settled inside) fuel
  rw [isValue, value_atColon column indent outers name after line index tokens settled] at step
  have found := gives line (index + name.length + 1) (tokens ++
    ((if indent < column then [.blockMappingStart, .key] else [.key]) ++ [.scalar name true, .value])) fuel
    (by simp at enough ⊢; omega)
  rw [Scan.run_settled (s := scan ⟨_, column, indent, outers, true⟩ line index tokens) here ready rfl settled,
    token_plain start rfl (by rw [noMarker, Bool.and_false]),
    plain_word column indent outers name after line index tokens word gap (fuel + 1)]
  refine step.trans (found.trans ?_)
  simp

end Place

end Playground.Yaml
