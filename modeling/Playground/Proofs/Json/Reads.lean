import Mathlib.Data.List.TakeDrop
import Playground.Json.Reader
import Playground.Json.Writer
import Playground.Proofs.Decimal.Digits

namespace Playground.Json

theorem ofHex?_hex : ∀ n < 0x20, Text.ofHex? (Text.hex 4 n) = some n := by decide

theorem hex_eq (n : Nat) : ∃ a b c d, Text.hex 4 n = [a, b, c, d] := ⟨_, _, _, _, rfl⟩

/-- A control character comes back from its four digits. More text follows them. -/
theorem unicodeEscape_hex {c next : Char} (control : c.toNat < 0x20) (more : Text) :
    unicodeEscape ('u' :: Text.hex 4 c.toNat ++ next :: more) = .ok (c, next :: more) := by
  obtain ⟨a, b, d, e, digits⟩ := hex_eq c.toNat
  have read := ofHex?_hex c.toNat control
  rw [digits] at read ⊢
  have high : ¬ (0xD800 ≤ c.toNat ∧ c.toNat < 0xDC00 ∧ 6 < (next :: more).length) := by omega
  have low : ¬ (0xD800 ≤ c.toNat ∧ c.toNat < 0xE000) := by omega
  simp only [unicodeEscape, fourHex?, List.cons_append, List.nil_append, List.drop_succ_cons, List.drop_zero, read,
    Option.map_some, if_neg high, if_neg low, Char.ofNat_toNat]

/-- A character is written as itself, or as a backslash and something that is read as the character. -/
theorem escapeChar_cases (c : Char) :
    (escapeChar c = [c] ∧ c ≠ '"' ∧ c ≠ '\\' ∧ ¬ c.toNat < 0x20) ∨
      ∃ written, escapeChar c = '\\' :: written ∧
        ∀ start next more, escape start (written ++ next :: more) = .ok (c, next :: more) := by
  unfold escapeChar
  split
  · rename_i quoted
    simp only [Bool.or_eq_true, beq_iff_eq] at quoted
    rcases quoted with rfl | rfl
    · exact Or.inr ⟨['"'], rfl, fun _ _ _ => rfl⟩
    · exact Or.inr ⟨['\\'], rfl, fun _ _ _ => rfl⟩
  split
  · rename_i same
    obtain rfl := beq_iff_eq.mp same
    exact Or.inr ⟨['n'], rfl, fun _ _ _ => rfl⟩
  split
  · rename_i same
    obtain rfl := beq_iff_eq.mp same
    exact Or.inr ⟨['r'], rfl, fun _ _ _ => rfl⟩
  split
  · rename_i same
    obtain rfl := beq_iff_eq.mp same
    exact Or.inr ⟨['t'], rfl, fun _ _ _ => rfl⟩
  split
  · rename_i same
    obtain rfl := beq_iff_eq.mp same
    exact Or.inr ⟨['b'], rfl, fun _ _ _ => rfl⟩
  split
  · rename_i same
    obtain rfl := beq_iff_eq.mp same
    exact Or.inr ⟨['f'], rfl, fun _ _ _ => rfl⟩
  split
  · rename_i control
    exact Or.inr ⟨'u' :: Text.hex 4 c.toNat, rfl, fun _ _ more => unicodeEscape_hex control more⟩
  · rename_i notQuoted _ _ _ _ _ printable
    simp only [Bool.or_eq_true, beq_iff_eq, not_or] at notQuoted
    exact Or.inl ⟨rfl, notQuoted.1, notQuoted.2, printable⟩

/-- A character of a string is read in one step, however it is written. -/
theorem string_escapeChar {start more rest : Text} {fuel : Nat} {c next : Char} {cs : Text}
    (tail : string start fuel (next :: more) = .ok (cs, rest)) :
    string start (fuel + 1) (escapeChar c ++ next :: more) = .ok (c :: cs, rest) := by
  rcases escapeChar_cases c with ⟨same, notQuote, notBackslash, printable⟩ | ⟨written, escaped, read⟩
  · rw [same, List.singleton_append, string]
    · simp only [if_neg printable, tail, bind, Except.bind, pure, Except.pure]
    · exact notQuote
    · exact notBackslash
  · simp only [escaped, List.cons_append, string, read, tail, bind, Except.bind, pure, Except.pure]

theorem escapeChar_ne_nil (c : Char) : escapeChar c ≠ [] := by
  rcases escapeChar_cases c with ⟨same, _⟩ | ⟨written, escaped, _⟩
  · rw [same]
    exact List.cons_ne_nil _ _
  · rw [escaped]
    exact List.cons_ne_nil _ _

theorem length_le_flatMap_escapeChar (t : Text) : t.length ≤ (t.flatMap escapeChar).length := by
  induction t with
  | nil => simp
  | cons c t ih =>
    have written := List.length_pos_iff.mpr (escapeChar_ne_nil c)
    simp only [List.length_cons, List.flatMap_cons, List.length_append]
    omega

theorem string_flatMap_escapeChar (start rest : Text) {t : Text} {fuel : Nat} (enough : t.length < fuel) :
    string start fuel (t.flatMap escapeChar ++ '"' :: rest) = .ok (t, rest) := by
  induction t generalizing fuel with
  | nil =>
    obtain ⟨fuel, rfl⟩ := Nat.exists_eq_succ_of_ne_zero (by omega : fuel ≠ 0)
    rfl
  | cons c t ih =>
    obtain ⟨fuel, rfl⟩ := Nat.exists_eq_succ_of_ne_zero (by omega : fuel ≠ 0)
    have tail := ih (by simpa using enough)
    rw [List.flatMap_cons, List.append_assoc]
    cases front : t.flatMap escapeChar ++ '"' :: rest with
    | nil => simp at front
    | cons next more =>
      rw [front] at tail
      exact string_escapeChar tail

/-- What may come after a value in compact text: nothing, the next item, or the end of the container. -/
def Closes (rest : Text) : Prop := ∀ c ∈ rest.head?, c = ',' ∨ c = ']' ∨ c = '}'

/-- What no value begins with, so that nothing before a value is mistaken for a part of it. -/
def Opens (t : Text) : Prop :=
  ∃ c rest, t = c :: rest ∧ isSpace c = false ∧ c ≠ ']' ∧ c ≠ '}' ∧ c ≠ '\uFEFF'

/-- A text reads as a value, whatever closes the place where it stands, with fuel for twice its length. -/
structure Reads (t : Text) (v : Value) : Prop where
  opens : Opens t
  value : ∀ fuel rest, 2 * t.length ≤ fuel → Closes rest → value fuel (t ++ rest) = .ok (v, rest)

theorem Opens.skipSpace {t : Text} (opens : Opens t) (rest : Text) : skipSpace (t ++ rest) = t ++ rest := by
  obtain ⟨c, more, rfl, notSpace, _⟩ := opens
  simp [Json.skipSpace, notSpace]

theorem Opens.skipSpace_space {t : Text} (opens : Opens t) (rest : Text) :
    Json.skipSpace (' ' :: (t ++ rest)) = t ++ rest := by
  have space : isSpace ' ' = true := by decide
  rw [Json.skipSpace, List.dropWhile_cons_of_pos space]
  exact opens.skipSpace rest

theorem reads_str (t : Text) : Reads (renderString t) (.str t) where
  opens := ⟨'"', t.flatMap escapeChar ++ ['"'], rfl, by decide, by decide, by decide, by decide⟩
  value := by
    intro fuel rest enough _
    have length := length_le_flatMap_escapeChar t
    simp only [renderString, List.cons_append, List.append_assoc, List.nil_append, List.length_cons,
      List.length_append, List.length_nil] at enough ⊢
    obtain ⟨fuel, rfl⟩ := Nat.exists_eq_succ_of_ne_zero (by omega : fuel ≠ 0)
    simp only [Nat.succ_eq_add_one, Json.value]
    rw [string_flatMap_escapeChar _ _ (by omega : t.length < fuel)]
    rfl

theorem value_eq_atom {c : Char} (notQuote : c ≠ '"') (notList : c ≠ '[') (notMap : c ≠ '{') (fuel : Nat)
    (rest : Text) : Json.value (fuel + 1) (c :: rest) = atom (c :: rest) := by
  rw [Json.value]
  · simpa using notQuote
  · simpa using notList
  · simpa using notMap

theorem reads_null : Reads "null".toList .null where
  opens := ⟨'n', "ull".toList, by decide, by decide, by decide, by decide, by decide⟩
  value := by
    intro fuel rest enough _
    obtain ⟨fuel, rfl⟩ := Nat.exists_eq_succ_of_ne_zero (by simp at enough; omega : fuel ≠ 0)
    show Json.value (fuel + 1) ('n' :: ("ull".toList ++ rest)) = _
    rw [value_eq_atom (by decide) (by decide) (by decide)]
    rfl

theorem Closes.not_digit {rest : Text} (closes : Closes rest) : ∀ c ∈ rest.head?, c.isDigit = false := by
  intro c member
  rcases closes c member with rfl | rfl | rfl <;> decide

theorem digits_ofNat (n : Nat) {rest : Text} (closes : Closes rest) :
    digits (Text.ofNat n ++ rest) = (Text.ofNat n, rest) := by
  rw [digits, List.span_eq_takeWhile_dropWhile,
    List.takeWhile_append_of_pos fun c member => Text.isDigit_of_mem_ofNat member,
    List.dropWhile_append_of_pos fun c member => Text.isDigit_of_mem_ofNat member]
  cases rest with
  | nil => simp
  | cons c rest => simp [closes.not_digit c rfl]

theorem wholePart_ofNat (n : Nat) {rest : Text} (closes : Closes rest) :
    wholePart (Text.ofNat n ++ rest) = some (Text.ofNat n, rest) := by
  rcases Nat.eq_zero_or_pos n with rfl | positive
  · rfl
  · have found := digits_ofNat n closes
    cases front : Text.ofNat n with
    | nil => exact absurd front (Text.ofNat_ne_nil n)
    | cons c more =>
      rw [front, List.cons_append] at found
      have notZero : c ≠ '0' := by
        rintro rfl
        exact Text.head_ofNat_ne_zero positive more front
      rw [List.cons_append, wholePart]
      · rw [found]
      · simpa using notZero

theorem fractionPart_of_closes {rest : Text} (closes : Closes rest) : fractionPart rest = ([], rest) := by
  cases rest with
  | nil => rfl
  | cons c rest => rcases closes c rfl with rfl | rfl | rfl <;> rfl

theorem exponentPart_of_closes {rest : Text} (closes : Closes rest) : exponentPart rest = (none, rest) := by
  cases rest with
  | nil => rfl
  | cons c rest => rcases closes c rfl with rfl | rfl | rfl <;> rfl

theorem number_ofInt {n : Int} (short : Decimal.IsShort n) {rest : Text} (closes : Closes rest) :
    number (Text.ofInt n ++ rest) = .ok (.int n, rest) := by
  cases n with
  | ofNat n =>
    have found := wholePart_ofNat n closes
    have fits : ¬ (Text.ofNat n).length > Decimal.maxDigits := Nat.not_lt.mpr short
    have unsigned : ∀ more, Text.ofNat n ++ rest ≠ '-' :: more := by
      intro more same
      cases front : Text.ofNat n with
      | nil => exact Text.ofNat_ne_nil n front
      | cons c tail =>
        rw [front] at same
        have digit := Text.isDigit_of_mem_ofNat (front ▸ List.mem_cons_self .. : c ∈ Text.ofNat n)
        rw [(List.cons.inj same).1] at digit
        contradiction
    rw [Text.ofInt, number]
    · simp only [found, fractionPart_of_closes closes, exponentPart_of_closes closes, List.isEmpty_nil,
        Option.isNone_none, Bool.and_true, if_true, if_neg fits, Decimal.ofDigits_ofNat]
      rfl
    · exact unsigned
  | negSucc n =>
    have found := wholePart_ofNat (n + 1) closes
    have fits : ¬ (Text.ofNat (n + 1)).length > Decimal.maxDigits := Nat.not_lt.mpr short
    simp only [number, Text.ofInt, List.cons_append, found, fractionPart_of_closes closes,
      exponentPart_of_closes closes, List.isEmpty_nil, Option.isNone_none, Bool.and_true, if_true, if_neg fits,
      Decimal.ofDigits_ofNat]
    rfl

/-- A word begins with no digit, and if it begins with a sign, then with no digit after it. -/
theorem literals_front : ∀ l ∈ literals, ∃ a w, l.1 = a :: w ∧ a.isDigit = false ∧
    (a = '-' → ∃ b v, w = b :: v ∧ b.isDigit = false) := by
  simp only [literals, List.forall_mem_cons]
  refine ⟨⟨'n', "ull".toList, rfl, rfl, fun h => absurd h (by decide)⟩,
    ⟨'t', "rue".toList, rfl, rfl, fun h => absurd h (by decide)⟩,
    ⟨'f', "alse".toList, rfl, rfl, fun h => absurd h (by decide)⟩,
    ⟨'N', "aN".toList, rfl, rfl, fun h => absurd h (by decide)⟩,
    ⟨'I', "nfinity".toList, rfl, rfl, fun h => absurd h (by decide)⟩,
    ⟨'-', "Infinity".toList, rfl, rfl, fun _ => ⟨'I', "nfinity".toList, rfl, rfl⟩⟩, ?_⟩
  simp

theorem ne_of_digit {a c : Char} (notDigit : a.isDigit = false) (digit : c.isDigit = true) : a ≠ c := by
  rintro rfl
  rw [digit] at notDigit
  contradiction

/-- A digit, or a sign before a digit, begins none of the words. -/
theorem atom_of_digit {c : Char} (digit : c.isDigit = true) {sign : Text} (signed : sign = [] ∨ sign = ['-'])
    (rest : Text) : atom (sign ++ c :: rest) = number (sign ++ c :: rest) := by
  have none : literals.find? (fun l => (sign ++ c :: rest).startsWith l.1) = none := by
    rw [List.find?_eq_none]
    intro l member
    obtain ⟨a, w, word, notDigit, next⟩ := literals_front l member
    rcases signed with rfl | rfl
    · simp [word, Text.startsWith, ne_of_digit notDigit digit]
    · by_cases minus : a = '-'
      · obtain ⟨b, v, rfl, notDigit⟩ := next minus
        simp [word, Text.startsWith, ne_of_digit notDigit digit]
      · simp [word, Text.startsWith, minus]
  rw [atom, none]

theorem ofInt_eq_append (n : Int) : ∃ sign c rest, (sign = [] ∨ sign = ['-']) ∧ c.isDigit = true ∧
    Text.ofInt n = sign ++ c :: rest := by
  have front (m : Nat) : ∃ c rest, c.isDigit = true ∧ Text.ofNat m = c :: rest := by
    cases written : Text.ofNat m with
    | nil => exact absurd written (Text.ofNat_ne_nil m)
    | cons c rest => exact ⟨c, rest, Text.isDigit_of_mem_ofNat (written ▸ List.mem_cons_self ..), rfl⟩
  cases n with
  | ofNat m =>
    obtain ⟨c, rest, digit, written⟩ := front m
    exact ⟨[], c, rest, Or.inl rfl, digit, written⟩
  | negSucc m =>
    obtain ⟨c, rest, digit, written⟩ := front (m + 1)
    exact ⟨['-'], c, rest, Or.inr rfl, digit, congrArg ('-' :: ·) written⟩

theorem reads_int {n : Int} (short : Decimal.IsShort n) : Reads (Text.ofInt n) (.int n) := by
  obtain ⟨sign, c, more, signed, digit, written⟩ := ofInt_eq_append n
  have plain {d : Char} (notDigit : d.isDigit = false) : c ≠ d := (ne_of_digit notDigit digit).symm
  constructor
  · rcases signed with rfl | rfl
    · refine ⟨c, more, written, ?_, plain (by decide), plain (by decide), plain (by decide)⟩
      simp [isSpace, plain (show ' '.isDigit = false by decide), plain (show '\t'.isDigit = false by decide),
        plain (show '\n'.isDigit = false by decide), plain (show '\r'.isDigit = false by decide)]
    · exact ⟨'-', c :: more, written, by decide, by decide, by decide, by decide⟩
  · intro fuel rest enough closes
    obtain ⟨fuel, rfl⟩ := Nat.exists_eq_succ_of_ne_zero (by simp [written] at enough; omega : fuel ≠ 0)
    have read := number_ofInt short closes
    rw [written, List.append_assoc, List.cons_append, ← atom_of_digit digit signed] at read
    rw [written, List.append_assoc, List.cons_append, Nat.succ_eq_add_one]
    rcases signed with rfl | rfl
    · rw [List.nil_append] at read ⊢
      rw [value_eq_atom (plain (by decide)) (plain (by decide)) (plain (by decide)), read]
    · rw [List.cons_append] at read ⊢
      rw [value_eq_atom (by decide) (by decide) (by decide), read]

end Playground.Json
