import Playground.Proofs.Yaml.DoubleQuoted
import Playground.Proofs.Yaml.Scan
import Playground.Proofs.Yaml.SingleQuoted
import Playground.Yaml.Reader

namespace Playground.Yaml

/-- The text that comes back of a text that was written as a scalar. -/
def returned (t : Text) : Text := if ScalarStyle.ofText t = .singleQuoted then unquoted false t else t

theorem returned_eq_self_iff {t : Text} :
    returned t = t ↔ (ScalarStyle.ofText t = .singleQuoted → '\u0085' ∉ t) := by
  unfold returned
  split
  · rename_i single
    simp [unquoted_eq_self_iff, single]
  · rename_i other
    simp [other]

theorem isAllowed_of_not_needsEscape {c : Char} (clean : needsEscape c = false) : isAllowed c = true ∧ c ≠ '\r' := by
  have notReturn : c ≠ '\r' := by
    rintro rfl
    contradiction
  refine ⟨?_, notReturn⟩
  simp only [needsEscape, Bool.not_eq_false', Bool.or_eq_true, Bool.and_eq_true, beq_iff_eq, decide_eq_true_eq,
    bne_iff_ne] at clean
  simp only [isAllowed, Bool.or_eq_true, Bool.and_eq_true, beq_iff_eq, decide_eq_true_eq]
  rcases clean with ((((rfl | range) | range) | range) | range) | range
  · decide
  all_goals omega

theorem isAllowed_of_isVerbatim {c : Char} (verbatim : isVerbatim c = true) :
    isAllowed c = true ∧ c ≠ '\r' ∧ c ≠ '\u0085' := by
  have notReturn : c ≠ '\r' := by
    rintro rfl
    contradiction
  have notNext : c ≠ '\u0085' := by
    rintro rfl
    contradiction
  refine ⟨?_, notReturn, notNext⟩
  simp only [isVerbatim, Bool.and_eq_true, Bool.or_eq_true, decide_eq_true_eq] at verbatim
  simp only [isAllowed, Bool.or_eq_true, Bool.and_eq_true, beq_iff_eq, decide_eq_true_eq]
  omega

/-- Everything that is written may stand in a document, and a next-line character only in single quotes. -/
theorem renderScalar_chars {indent column : Nat} {t : Text} {c : Char} (member : c ∈ renderScalar indent column t) :
    isAllowed c = true ∧ c ≠ '\r' ∧ (ScalarStyle.ofText t ≠ .singleQuoted → c ≠ '\u0085') := by
  unfold renderScalar at member
  split at member
  case h_1 style =>
    have plain := isPlain_of_style style
    rcases mem_plainFrom member with inText | rfl | rfl
    · obtain ⟨clean, inside⟩ := plain.bare.clean c inText
      obtain ⟨allowed, notReturn⟩ := isAllowed_of_not_needsEscape clean
      refine ⟨allowed, notReturn, fun _ => ?_⟩
      rintro rfl
      contradiction
    · simp [isAllowed]
    · simp [isAllowed]
  case h_2 style =>
    have written : (isAllowed c = true ∧ c ≠ '\r') := by
      rcases List.mem_cons.mp member with rfl | inside
      · decide
      rcases mem_singleFrom inside with inText | rfl | rfl | rfl
      · exact isAllowed_of_not_needsEscape ((of_singleQuoted style).1 c inText)
      all_goals decide
    exact ⟨written.1, written.2, fun other => absurd style other⟩
  case h_3 style =>
    rcases List.mem_cons.mp member with rfl | inside
    · simp [isAllowed]
    rcases mem_doubleFrom inside with verbatim | rfl | rfl | rfl
    · obtain ⟨allowed, notReturn, notNext⟩ := isAllowed_of_isVerbatim verbatim
      exact ⟨allowed, notReturn, fun _ => notNext⟩
    all_goals simp [isAllowed]

/-- A line with this text in front of it can follow, at a given indentation. -/
structure LineStarts (width : Nat) (rest : Text) : Prop where
  ready : Scan.gap false rest = (0, false)
  column : (passBlankLines false 0 (List.replicate width ' ' ++ rest)).column = width
  reached : (passBlankLines false 0 (List.replicate width ' ' ++ rest)).rest = rest

theorem lineStarts_end : LineStarts 0 [] := ⟨rfl, rfl, rfl⟩

theorem lineStarts_of_solid {rest : Text} (width : Nat) (solid : Solid rest) (noComment : rest.head? ≠ some '#')
    (noMarker : atAnyMarker rest = false) : LineStarts width rest := by
  have passes : passBlankLines false 0 (List.replicate width ' ' ++ rest) = ⟨[], false, width, rest⟩ := by
    cases width with
    | zero =>
      obtain ⟨c, more, rfl, notBlank, notBreak⟩ := solid
      rw [List.replicate_zero, List.nil_append, passBlankLines, noMarker, beq_space_of_not_blank notBlank, notBreak]
      rfl
    | succ width =>
      have passes := passBlankLines_indentation false 0 (width + 1) (by omega) solid
      rwa [Nat.zero_add] at passes
  exact ⟨Place.gap_of_solid solid noComment, by rw [passes], by rw [passes]⟩

theorem lineStarts_word (width : Nat) {t : Text} (word : IsWord t) (after : Text) : LineStarts width (t ++ after) :=
  lineStarts_of_solid width (word.solid after) (word.noComment after) (word.noMarker after)

theorem lineStarts_dash (width : Nat) (after : Text) : LineStarts width ('-' :: ' ' :: after) :=
  lineStarts_of_solid width ⟨'-', _, rfl, by decide, by decide⟩ (by simp) rfl

/-- At a column inside a block of some indentation, this text is a scalar, whatever line comes next, as long as that one
is not indented more than the block. -/
structure StandsAsValue (indent : Int) (column : Nat) (v content : Text) (plain : Bool) : Prop where
  ready : ∀ after, Scan.gap false (v ++ after) = (0, false)
  gives : ∀ {width : Nat} {rest : Text} {outers : List Int} {ts : List Token}, LineStarts width rest → width ≤ indent →
    Place.Gives ⟨rest, width, indent, outers, true⟩ ts →
    Place.Gives ⟨v ++ '\n' :: (List.replicate width ' ' ++ rest), column, indent, outers, false⟩
      (.scalar content plain :: ts)

variable {indent : Int} {column : Nat}

theorem standsAsValue_word {t : Text} (word : IsWord t) (settled : indent ≤ column) (inside : 0 < column) :
    StandsAsValue indent column t t true := by
  refine ⟨fun after => Place.gap_of_solid (word.solid after) (word.noComment after), ?_⟩
  intro width rest outers ts starts within gives
  obtain ⟨c, more, first⟩ := List.exists_cons_of_ne_nil word.nonempty
  have start := startsPlain_of_wordChar (word.chars c (by simp [first]))
  have reads := word.plainReads (List.replicate width ' ' ++ rest) (show _ < indent + 1 by rw [starts.column]; omega)
  rw [starts.reached] at reads
  exact gives.plain reads (by rw [first]; rfl) (start _) settled inside

theorem startsPlain_of_isPlain {c : Char} {t : Text} (plain : IsPlain (c :: t)) (width column : Nat) (after : Text) :
    Scan.startsPlain false c (plainFrom width false column t ++ after) = true := by
  have notSpace : c ≠ ' ' := by simpa using plain.notSpace
  have clean := plain.bare.clean c List.mem_cons_self
  have noIndicator := plain.noIndicator
  simp only [hasIndicator, Bool.or_eq_false_iff, Bool.and_eq_false_imp] at noIndicator
  obtain ⟨⟨⟨_, unsigned⟩, goesOn⟩, _⟩ := noIndicator
  by_cases sign : (c == '?' || c == ':' || c == '-') = true
  · have cleanTail := fun d member => plain.bare.clean d (List.mem_cons_of_mem c member)
    have noGap := atGap_plainFrom cleanTail (goesOn sign) width column after
    simp only [Bool.or_eq_true, beq_iff_eq] at sign
    rw [Scan.startsPlain, noGap]
    rcases sign with (rfl | rfl) | rfl <;> rfl
  · simp only [Bool.or_eq_true, beq_iff_eq, not_or] at sign
    have others : "-?:,[]\x7b\x7d#&*!|>'\"%@`".toList.contains c = false := by
      simp at unsigned sign ⊢
      simp [unsigned, sign]
    rw [Scan.startsPlain, isSpaceOrTab_of_clean clean notSpace, isBreak_of_clean clean, others]
    rfl

/-- Only the next-line character looks different once breaks are unified. -/
theorem map_unified_renderScalar {width column : Nat} {t : Text} (other : ScalarStyle.ofText t ≠ .singleQuoted) :
    (renderScalar width column t).map unified = renderScalar width column t :=
  map_unified fun member => (renderScalar_chars member).2.2 other rfl

/-- A quoted scalar stands as a value if it is closed before the end of the line. -/
theorem standsAsValue_quoted {double : Bool} {v content : Text} (settled : indent ≤ column)
    (closes : ∀ after, Closes double (v ++ '\n' :: after) content ('\n' :: after)) :
    StandsAsValue indent column (quoteSign double :: v) content false := by
  refine ⟨?_, ?_⟩
  · intro after
    cases double <;> exact Place.gap_of_solid ⟨_, _, rfl, by decide, by decide⟩ (by simp [quoteSign])
  · intro width rest outers ts starts _ gives
    exact Place.Gives.quoted (fun _ => gives.newLine starts.ready) (closes _) settled

/-- In whichever way a text is written, it stands as a value. -/
theorem standsAsValue_rendered {width : Nat} (positive : 0 < width) (narrow : width < lineWidth)
    (within : indent + 1 ≤ width) (settled : indent ≤ column) (inside : 0 < column) (t : Text) :
    StandsAsValue indent column ((renderScalar width column t).map unified) (returned t)
      (ScalarStyle.ofText t == .plain) := by
  cases style : ScalarStyle.ofText t with
  | plain =>
    have plain := isPlain_of_style style
    rw [map_unified_renderScalar (by simp [style]), renderScalar, returned, style, if_neg (by simp)]
    obtain ⟨c, t, rfl⟩ := List.exists_cons_of_ne_nil plain.nonempty
    have notSpace : c ≠ ' ' := by simpa using plain.notSpace
    have start (after : Text) := startsPlain_of_isPlain plain width (column + 1) after
    have first := plainFrom_of_ne width false column t notSpace
    refine ⟨?_, ?_⟩
    · intro after
      simp only [first]
      exact gap_of_startsPlain (start after)
    · intro next rest outers ts starts less gives
      have reads := plainReads_plainFrom plain column (List.replicate next ' ' ++ rest) positive within
        (by rw [starts.column]; omega)
      rw [starts.reached] at reads
      exact gives.plain reads (by simp only [first]; rfl) (start _) settled inside
  | singleQuoted =>
    obtain ⟨clean, apart⟩ := of_singleQuoted style
    rw [renderScalar, returned, style, if_pos rfl]
    exact standsAsValue_quoted settled fun after =>
      (closes_singleFrom positive t (by simp) clean apart).1 .start (column + 1) (by simp)
  | doubleQuoted =>
    rw [map_unified_renderScalar (by simp [style]), renderScalar, returned, style, if_neg (by simp)]
    exact standsAsValue_quoted settled fun after => (closes_doubleFrom positive narrow t _).1 true false (column + 1)

/-- What is read of a scalar is a text again, and never a number, a date or nothing. -/
theorem scalarValue_returned (t : Text) :
    scalarValue (returned t) (ScalarStyle.ofText t == .plain) = .ok (.str (returned t)) := by
  by_cases style : ScalarStyle.ofText t = .plain
  · have means := (isPlain_of_style style).means
    rw [returned, style, if_neg (by simp), scalarValue, means]
    rfl
  · have quoted : (ScalarStyle.ofText t == .plain) = false := beq_eq_false_iff_ne.mpr style
    rw [scalarValue, quoted]
    rfl

end Playground.Yaml
