import Playground.Proofs.Yaml.Breaks
import Playground.Yaml.Scalar
import Playground.Yaml.Token.Plain

namespace Playground.Yaml

theorem plainChunk_append (inFlow : Bool) (t : Text) : (plainChunk inFlow t).1 ++ (plainChunk inFlow t).2 = t := by
  induction t with
  | nil => rfl
  | cons c t ih =>
    unfold plainChunk
    split
    · rfl
    · rw [List.cons_append, ih]

/-- From a text on, a plain scalar in a block has that content and ends before another line. -/
def PlainReads (indent : Int) (t content rest : Text) : Prop :=
  ∀ fuel, t.length ≤ fuel → readPlain false indent fuel t = ⟨content, rest, true⟩

/-- A chunk of a plain scalar starts here. -/
structure ChunkStarts (indent : Int) (t content rest : Text) : Prop where
  solid : Solid t
  noComment : t.head? ≠ some '#'
  some : content ≠ []
  reads : PlainReads indent t content rest

/-- Blanks are passed, if there are any, before the next chunk starts. -/
def ChunkFollows (indent : Int) (t content rest : Text) : Prop :=
  ∃ width t' content', t = List.replicate width ' ' ++ t' ∧ content = List.replicate width ' ' ++ content' ∧
    ChunkStarts indent t' content' rest

/-- Behind any chunk, a plain scalar goes on with that content. -/
def ChunkEnded (indent : Int) (after content rest : Text) : Prop :=
  ∀ t chunk fuel, plainChunk false t = (chunk, after) → chunk ≠ [] → t.head? ≠ some '#' → after.length ≤ fuel →
    readPlain false indent (fuel + 1) t = ⟨chunk ++ content, rest, true⟩

/-- Inside a chunk, a plain scalar goes on with that content. -/
def InChunk (indent : Int) (t content rest : Text) : Prop :=
  ∃ chunk after more, plainChunk false t = (chunk, after) ∧ content = chunk ++ more ∧ ChunkEnded indent after more rest

variable {indent : Int} {t content rest : Text}

theorem ChunkFollows.space (follows : ChunkFollows indent t content rest) :
    ChunkFollows indent (' ' :: t) (' ' :: content) rest := by
  obtain ⟨width, t', content', rfl, rfl, starts⟩ := follows
  exact ⟨width + 1, t', content', rfl, rfl, starts⟩

theorem ChunkStarts.follows (starts : ChunkStarts indent t content rest) : ChunkFollows indent t content rest :=
  ⟨0, t, content, rfl, rfl, starts⟩

theorem ChunkFollows.starts (follows : ChunkFollows indent t content rest) (notSpace : t.head? ≠ some ' ') :
    ChunkStarts indent t content rest := by
  obtain ⟨width, t', content', rfl, rfl, starts⟩ := follows
  cases width with
  | zero => exact starts
  | succ width => exact absurd rfl notSpace

theorem ChunkEnded.inChunk {c : Char} {after : Text} (ended : ChunkEnded indent (c :: after) content rest)
    (gap : isSpaceOrTab c = true ∨ isBreak c = true) : InChunk indent (c :: after) content rest := by
  refine ⟨[], c :: after, content, ?_, rfl, ended⟩
  rw [plainChunk]
  rcases gap with blank | breaks
  · simp [blank]
  · simp [breaks]

theorem plainChunk_cons {c : Char} {t : Text} (notBlank : isSpaceOrTab c = false) (notBreak : isBreak c = false)
    (colon : c = ':' → atGap t = false) :
    plainChunk false (c :: t) = (c :: (plainChunk false t).1, (plainChunk false t).2) := by
  have goesOn : (c == ':' && colonEndsPlain false t) = false := by
    by_cases isColon : c = ':'
    · simp [colonEndsPlain, colon isColon]
    · simp [isColon]
  rw [plainChunk]
  simp [notBlank, notBreak, goesOn]

theorem InChunk.char {c : Char} (inside : InChunk indent t content rest) (notBlank : isSpaceOrTab c = false)
    (notBreak : isBreak c = false) (colon : c = ':' → atGap t = false) :
    InChunk indent (c :: t) (c :: content) rest := by
  obtain ⟨chunk, after, more, cut, rfl, ended⟩ := inside
  refine ⟨c :: chunk, after, more, ?_, rfl, ended⟩
  rw [plainChunk_cons notBlank notBreak colon, cut]

theorem InChunk.starts {c : Char} (inside : InChunk indent t content rest) (notBlank : isSpaceOrTab c = false)
    (notBreak : isBreak c = false) (colon : c = ':' → atGap t = false) (noComment : c ≠ '#') :
    ChunkStarts indent (c :: t) (c :: content) rest := by
  obtain ⟨chunk, after, more, cut, rfl, ended⟩ := inside
  have whole : plainChunk false (c :: t) = (c :: chunk, after) := by
    rw [plainChunk_cons notBlank notBreak colon, cut]
  have shorter : after.length ≤ t.length := by
    have length := congrArg List.length (plainChunk_append false t)
    simp only [cut, List.length_append] at length
    omega
  refine ⟨⟨c, t, rfl, notBlank, notBreak⟩, by simpa using noComment, List.cons_ne_nil _ _, ?_⟩
  intro fuel enough
  obtain ⟨fuel, rfl⟩ := Nat.exists_eq_succ_of_ne_zero (by simp at enough; omega : fuel ≠ 0)
  exact ended (c :: t) (c :: chunk) fuel whole (List.cons_ne_nil _ _) (by simpa using noComment)
    (by simp at enough; omega)

/-- A line that is indented too little ends the scalar. -/
theorem chunkEnded_newLine {t : Text} (outside : ((passBlankLines false 0 t).column : Int) < indent) :
    ChunkEnded indent ('\n' :: t) [] (passBlankLines false 0 t).rest := by
  intro whole chunk fuel cut some noComment _
  have notEmpty : chunk.isEmpty = false := by simpa using some
  rw [readPlain]
  simp [cut, notEmpty, noComment, outside]

/-- A line break before a line that belongs to the scalar is a space. -/
theorem ChunkStarts.folded {lead : Text} {column : Nat} (starts : ChunkStarts indent t content rest)
    (passes : passBlankLines false 0 lead = ⟨[], false, column, t⟩) (inside : indent ≤ column) :
    ChunkEnded indent ('\n' :: lead) (' ' :: content) rest := by
  have shorter := length_passBlankLines_le false 0 lead
  rw [passes] at shorter
  intro whole chunk fuel cut some noComment enough
  have notEmpty : chunk.isEmpty = false := by simpa using some
  have goesOn : content.isEmpty = false := by simpa using starts.some
  have notOutside : ¬ (column : Int) < indent := by omega
  have more := starts.reads fuel (by simp at enough shorter; omega)
  rw [readPlain]
  simp [cut, notEmpty, noComment, passes, starts.noComment, notOutside, more, goesOn, fold]

/-- Spaces between two chunks on a line are kept. -/
theorem ChunkFollows.spaced (follows : ChunkFollows indent t content rest) :
    ChunkEnded indent (' ' :: t) (' ' :: content) rest := by
  obtain ⟨width, t', content', rfl, rfl, starts⟩ := follows
  obtain ⟨c, more, rfl, notBlank, notBreak⟩ := starts.solid
  have notComment : c ≠ '#' := by simpa using starts.noComment
  have notSpace := beq_space_of_not_blank notBlank
  have spaces : ∀ s ∈ List.replicate width ' ', (s == ' ') = true := by simp
  intro whole chunk fuel cut some noComment enough
  have notEmpty : chunk.isEmpty = false := by simpa using some
  have goesOn : content'.isEmpty = false := by simpa using starts.some
  have next := starts.reads fuel (by simp at enough ⊢; omega)
  rw [readPlain]
  simp [cut, notEmpty, noComment, List.takeWhile_append_of_pos spaces, List.dropWhile_append_of_pos spaces, notSpace,
    notBreak, notComment, next, goesOn]

/-- From some character on, nothing in a text means anything but itself in a plain scalar. -/
structure IsBare (afterBlank : Bool) (t : Text) : Prop where
  inner : hasInnerIndicator afterBlank t = false
  clean : ∀ c ∈ t, needsEscape c = false ∧ endsLine c = false
  last : t.getLast? ≠ some ' '

theorem separates_of_clean {c : Char} (clean : needsEscape c = false ∧ endsLine c = false) :
    separates c = (c == ' ') := by
  have other {d : Char} (escaped : needsEscape d = true) : (c == d) = false := by
    refine beq_eq_false_iff_ne.mpr ?_
    rintro rfl
    simp [escaped] at clean
  rw [separates, other (by decide : needsEscape '\x00' = true), other (by decide : needsEscape '\t' = true),
    other (by decide : needsEscape '\r' = true), clean.2]
  simp

theorem isBreak_of_clean {c : Char} (clean : needsEscape c = false ∧ endsLine c = false) : isBreak c = false := by
  have ends := clean.2
  simp only [endsLine, Bool.or_eq_false_iff] at ends
  exact ends.2

theorem isSpaceOrTab_of_clean {c : Char} (clean : needsEscape c = false ∧ endsLine c = false) (notSpace : c ≠ ' ') :
    isSpaceOrTab c = false := by
  have noTab : c ≠ '\t' := by
    rintro rfl
    exact absurd clean.1 (by decide)
  simp [isSpaceOrTab, notSpace, noTab]

theorem IsBare.tail {afterBlank : Bool} {c : Char} {t : Text} (bare : IsBare afterBlank (c :: t)) :
    IsBare (c == ' ') t := by
  have inner := bare.inner
  rw [hasInnerIndicator, Bool.or_eq_false_iff, separates_of_clean (bare.clean c List.mem_cons_self)] at inner
  refine ⟨inner.2, fun d member => bare.clean d (List.mem_cons_of_mem c member), ?_⟩
  cases t with
  | nil => simp
  | cons d t =>
    have last := bare.last
    rwa [List.getLast?_cons_cons] at last

theorem plainFrom_of_ne (width : Nat) (afterSpace : Bool) (column : Nat) {c : Char} (t : Text) (notSpace : c ≠ ' ') :
    plainFrom width afterSpace column (c :: t) = c :: plainFrom width false (column + 1) t := by
  have other : (c == ' ') = false := beq_eq_false_iff_ne.mpr notSpace
  rw [plainFrom, other]
  simp

theorem atGap_plainFrom {t : Text} (clean : ∀ c ∈ t, needsEscape c = false ∧ endsLine c = false)
    (goesOn : atSeparator t = false) (width column : Nat) (after : Text) :
    atGap (plainFrom width false column t ++ after) = false := by
  cases t with
  | nil => exact absurd goesOn (by decide)
  | cons c t =>
    have here := clean c List.mem_cons_self
    rw [atSeparator, separates_of_clean here, beq_eq_false_iff_ne] at goesOn
    rw [plainFrom_of_ne width false column t goesOn, List.cons_append, atGap, isSpaceOrTab_of_clean here goesOn,
      isBreak_of_clean here]
    rfl

/-- A colon is followed by something. -/
theorem IsBare.colon {afterBlank : Bool} {t : Text} (bare : IsBare afterBlank (':' :: t)) (width column : Nat)
    (after : Text) : atGap (plainFrom width false column t ++ after) = false := by
  have inner := bare.inner
  simp only [hasInnerIndicator, Bool.or_eq_false_iff, beq_self_eq_true, Bool.true_and] at inner
  exact atGap_plainFrom bare.tail.clean inner.1.1 width column after

section
variable {width column : Nat} {afterBlank afterSpace : Bool} {c : Char} {after : Text}

/-- Another character of a chunk. -/
theorem inChunk_plainFrom_char (bare : IsBare afterBlank (c :: t)) (notSpace : c ≠ ' ')
    (tail : InChunk indent (plainFrom width false (column + 1) t ++ after) t rest) :
    InChunk indent (plainFrom width afterSpace column (c :: t) ++ after) (c :: t) rest := by
  have clean := bare.clean c List.mem_cons_self
  rw [plainFrom_of_ne width afterSpace column t notSpace]
  refine tail.char (isSpaceOrTab_of_clean clean notSpace) (isBreak_of_clean clean) ?_
  rintro rfl
  exact bare.colon width (column + 1) after

/-- The first character of a chunk. -/
theorem chunkStarts_plainFrom (bare : IsBare afterBlank (c :: t)) (notSpace : c ≠ ' ') (noComment : c ≠ '#')
    (tail : InChunk indent (plainFrom width false (column + 1) t ++ after) t rest) :
    ChunkStarts indent (plainFrom width afterSpace column (c :: t) ++ after) (c :: t) rest := by
  have clean := bare.clean c List.mem_cons_self
  rw [plainFrom_of_ne width afterSpace column t notSpace]
  refine tail.starts (isSpaceOrTab_of_clean clean notSpace) (isBreak_of_clean clean) ?_ noComment
  rintro rfl
  exact bare.colon width (column + 1) after

end

/-- A space inside a plain scalar is kept, or it becomes a line break and is read as a space again. -/
theorem inChunk_plainFrom_space {width : Nat} {follow : Text} (positive : 0 < width) (inside : indent ≤ width)
    (goesOn : t ≠ []) (later : ∀ column, ChunkFollows indent (plainFrom width true column t ++ '\n' :: follow) t rest)
    (column : Nat) : InChunk indent (plainFrom width false column (' ' :: t) ++ '\n' :: follow) (' ' :: t) rest := by
  rw [plainFrom]
  split
  · rename_i broken
    have notSpace : t.head? ≠ some ' ' := by
      simp only [Bool.and_eq_true, bne_iff_ne] at broken
      exact broken.1.2
    obtain ⟨d, t, rfl⟩ := List.exists_cons_of_ne_nil goesOn
    have other : d ≠ ' ' := by simpa using notSpace
    have starts := (later width).starts (by rw [plainFrom_of_ne width true width t other]; simpa using other)
    have passes := passBlankLines_indentation false 0 width (by omega) starts.solid
    have folded := starts.folded passes (by omega)
    simpa [newLine] using folded.inChunk (Or.inr rfl)
  · exact (later (column + 1)).spaced.inChunk (Or.inl rfl)

/-- A plain scalar gives its text back, wherever the writer breaks its lines, if the line that follows is indented
less and the further lines of the scalar itself are not. -/
theorem inChunk_plainFrom {width : Nat} {follow : Text} (positive : 0 < width) (inside : indent ≤ width)
    (outside : ((passBlankLines false 0 follow).column : Int) < indent) (t : Text) :
    (∀ column, IsBare false t → InChunk indent (plainFrom width false column t ++ '\n' :: follow) t
      (passBlankLines false 0 follow).rest) ∧
    (∀ column, t ≠ [] → IsBare true t → ChunkFollows indent (plainFrom width true column t ++ '\n' :: follow) t
      (passBlankLines false 0 follow).rest) := by
  induction t with
  | nil => exact ⟨fun _ _ => (chunkEnded_newLine outside).inChunk (Or.inr rfl), fun _ some => absurd rfl some⟩
  | cons c t ih =>
    obtain ⟨ihIn, ihFollows⟩ := ih
    by_cases space : c = ' '
    · subst space
      have goesOn {afterBlank : Bool} (bare : IsBare afterBlank (' ' :: t)) : t ≠ [] := by
        rintro rfl
        exact bare.last rfl
      refine ⟨?_, ?_⟩
      · intro column bare
        have later (column : Nat) := ihFollows column (goesOn bare) bare.tail
        exact inChunk_plainFrom_space positive inside (goesOn bare) later column
      · intro column _ bare
        have next := (ihFollows (column + 1) (goesOn bare) bare.tail).space
        simpa [plainFrom] using next
    · have other : (c == ' ') = false := beq_eq_false_iff_ne.mpr space
      refine ⟨?_, ?_⟩
      · intro column bare
        exact inChunk_plainFrom_char bare space (ihIn (column + 1) (other ▸ bare.tail))
      · intro column _ bare
        -- Behind a blank, a number sign would start a comment.
        have noComment : c ≠ '#' := by
          rintro rfl
          have inner := bare.inner
          simp [hasInnerIndicator] at inner
        exact (chunkStarts_plainFrom bare space noComment (ihIn (column + 1) (other ▸ bare.tail))).follows

/-- Writing a text plain adds only line breaks and spaces. -/
theorem mem_plainFrom {width : Nat} {afterSpace : Bool} {column : Nat} {t : Text} {c : Char}
    (member : c ∈ plainFrom width afterSpace column t) : c ∈ t ∨ c = '\n' ∨ c = ' ' := by
  induction t generalizing afterSpace column with
  | nil => contradiction
  | cons d t ih =>
    rw [plainFrom] at member
    split at member
    · simp only [newLine, List.cons_append, List.mem_cons, List.mem_append, List.mem_replicate] at member
      rcases member with rfl | ⟨_, rfl⟩ | later
      · exact Or.inr (Or.inl rfl)
      · exact Or.inr (Or.inr rfl)
      · exact (ih later).imp_left (List.mem_cons_of_mem d)
    · rcases List.mem_cons.mp member with rfl | later
      · exact Or.inl List.mem_cons_self
      · exact (ih later).imp_left (List.mem_cons_of_mem d)

/-- What holds of a text that is written plain. -/
structure IsPlain (t : Text) : Prop where
  means : Meaning.ofText t = .text
  nonempty : t ≠ []
  noIndicator : hasIndicator t = false
  notSpace : t.head? ≠ some ' '
  bare : IsBare false t

theorem isPlain_of_style {t : Text} (style : ScalarStyle.ofText t = .plain) : IsPlain t := by
  have asked : Meaning.ofText t = .text ∧ t ≠ [] ∧ (∀ c ∈ t, endsLine c = false) ∧ (∀ c ∈ t, needsEscape c = false) ∧
      hasIndicator t = false ∧ t.head? ≠ some ' ' ∧ t.getLast? ≠ some ' ' := by
    simp only [ScalarStyle.ofText] at style
    split at style
    · rename_i plain
      simpa [and_assoc] using plain
    · split at style <;> contradiction
  obtain ⟨means, nonempty, inside, clean, noIndicator, notSpace, last⟩ := asked
  refine ⟨means, nonempty, noIndicator, notSpace, ⟨?_, fun c member => ⟨clean c member, inside c member⟩, last⟩⟩
  obtain ⟨c, t, rfl⟩ := List.exists_cons_of_ne_nil nonempty
  simp only [hasIndicator, Bool.or_eq_false_iff, Bool.and_eq_false_imp] at noIndicator
  simp only [hasInnerIndicator, Bool.and_false, Bool.or_false, Bool.or_eq_false_iff, Bool.and_eq_false_imp]
  refine ⟨fun colon => noIndicator.1.2 (by simp [colon]), noIndicator.2⟩

/-- A text that is written plain comes back, and the line that follows stands at its first character. -/
theorem plainReads_plainFrom {width : Nat} {t : Text} (plain : IsPlain t) (column : Nat) (follow : Text)
    (positive : 0 < width) (inside : indent ≤ width)
    (outside : ((passBlankLines false 0 follow).column : Int) < indent) :
    PlainReads indent (plainFrom width false column t ++ '\n' :: follow) t (passBlankLines false 0 follow).rest := by
  obtain ⟨c, t, rfl⟩ := List.exists_cons_of_ne_nil plain.nonempty
  have notSpace : c ≠ ' ' := by simpa using plain.notSpace
  have noComment : c ≠ '#' := by
    rintro rfl
    have noIndicator := plain.noIndicator
    simp [hasIndicator] at noIndicator
  have other : (c == ' ') = false := beq_eq_false_iff_ne.mpr notSpace
  have tail := (inChunk_plainFrom positive inside outside t).1 (column + 1) (other ▸ plain.bare.tail)
  exact (chunkStarts_plainFrom plain.bare notSpace noComment tail).reads

/-- Letters, digits and underscores, at least one. -/
structure IsWord (t : Text) : Prop where
  nonempty : t ≠ []
  chars : ∀ c ∈ t, c.isAlphanum = true ∨ c = '_'

instance (t : Text) : Decidable (IsWord t) :=
  decidable_of_iff (t ≠ [] ∧ t.all (fun c => c.isAlphanum || c == '_') = true)
    ⟨fun ⟨nonempty, chars⟩ => ⟨nonempty, by simpa using chars⟩, fun word => ⟨word.nonempty, by simpa using word.chars⟩⟩

/-- No sign that means something can be part of a word. -/
theorem not_mem_of_wordChar {c : Char} (signs : Text) (word : c.isAlphanum = true ∨ c = '_')
    (others : signs.all (fun d => !d.isAlphanum && d != '_') = true) : c ∉ signs := by
  intro member
  obtain ⟨notAlphanum, notUnderscore⟩ : c.isAlphanum = false ∧ c ≠ '_' := by
    simpa using List.all_eq_true.mp others c member
  rcases word with alphanum | underscore
  · simp [alphanum] at notAlphanum
  · exact notUnderscore underscore

theorem gap_of_wordChar {c : Char} (word : c.isAlphanum = true ∨ c = '_') :
    isSpaceOrTab c = false ∧ isBreak c = false := by
  have other := not_mem_of_wordChar [' ', '\t', '\n', '\u2028', '\u2029'] word (by decide)
  simp only [List.mem_cons, not_or] at other
  simp [isSpaceOrTab, isBreak, other]

theorem IsWord.solid {t : Text} (word : IsWord t) (after : Text) : Solid (t ++ after) := by
  obtain ⟨c, t, rfl⟩ := List.exists_cons_of_ne_nil word.nonempty
  obtain ⟨notBlank, notBreak⟩ := gap_of_wordChar (word.chars c List.mem_cons_self)
  exact ⟨c, t ++ after, rfl, notBlank, notBreak⟩

theorem IsWord.noMarker {t : Text} (word : IsWord t) (after : Text) : atAnyMarker (t ++ after) = false := by
  obtain ⟨c, t, rfl⟩ := List.exists_cons_of_ne_nil word.nonempty
  have other := not_mem_of_wordChar ['-', '.'] (word.chars c List.mem_cons_self) (by decide)
  simp only [List.mem_cons, List.not_mem_nil, or_false, not_or] at other
  exact atAnyMarker_cons _ other.1 other.2

theorem IsWord.chunk {t : Text} (word : IsWord t) (after : Text) (ends : plainChunk false after = ([], after)) :
    plainChunk false (t ++ after) = (t, after) := by
  have chars := word.chars
  clear word
  induction t with
  | nil => exact ends
  | cons c t ih =>
    have here := chars c List.mem_cons_self
    have noColon : c ≠ ':' := by simpa using not_mem_of_wordChar [':'] here (by decide)
    obtain ⟨notBlank, notBreak⟩ := gap_of_wordChar here
    rw [List.cons_append, plainChunk_cons notBlank notBreak (fun colon => absurd colon noColon),
      ih fun d member => chars d (List.mem_cons_of_mem c member)]

theorem IsWord.noComment {t : Text} (word : IsWord t) (after : Text) : (t ++ after).head? ≠ some '#' := by
  obtain ⟨c, t, rfl⟩ := List.exists_cons_of_ne_nil word.nonempty
  have other := not_mem_of_wordChar ['#'] (word.chars c List.mem_cons_self) (by decide)
  simpa using other

theorem IsWord.plainReads {t : Text} (word : IsWord t) (follow : Text)
    (outside : ((passBlankLines false 0 follow).column : Int) < indent) :
    PlainReads indent (t ++ '\n' :: follow) t (passBlankLines false 0 follow).rest := by
  intro fuel enough
  obtain ⟨fuel, rfl⟩ := Nat.exists_eq_succ_of_ne_zero (by simp at enough; omega : fuel ≠ 0)
  have chunk := word.chunk ('\n' :: follow) rfl
  have read := chunkEnded_newLine outside (t ++ '\n' :: follow) t fuel chunk word.nonempty (word.noComment _)
    (by simp at enough ⊢; have := List.length_pos_iff.mpr word.nonempty; omega)
  simpa using read

/-- A word in front of a colon is read up to the colon. -/
theorem IsWord.readKey {t after : Text} (word : IsWord t) (gap : atGap after = true) (indent : Int) (fuel : Nat) :
    readPlain false indent (fuel + 1) (t ++ ':' :: after) = ⟨t, ':' :: after, false⟩ := by
  have chunk := word.chunk (':' :: after) (by simp [plainChunk, colonEndsPlain, gap])
  have notEmpty : t.isEmpty = false := by simpa using word.nonempty
  have noComment : ((t ++ ':' :: after).head? == some '#') = false := beq_eq_false_iff_ne.mpr (word.noComment _)
  rw [readPlain, chunk, noComment]
  simp [notEmpty]

end Playground.Yaml
