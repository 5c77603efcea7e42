namespace Playground

/-- A text is the list of its characters; only the outer layer sees strings. -/
abbrev Text := List Char

namespace Text

/-- The pieces between the characters that satisfy `p`. There is always at least one piece. -/
def splitBy (p : Char → Bool) : Text → List Text
  | [] => [[]]
  | c :: rest =>
    if p c then [] :: splitBy p rest
    else
      match splitBy p rest with
      | [] => [[c]]
      | piece :: pieces => (c :: piece) :: pieces

/-- The lines of a text. Only a line feed ends a line, and the empty text is one empty line. -/
def lines (t : Text) : List Text := splitBy (· == '\n') t

def joinWith (separator : Text) : List Text → Text
  | [] => []
  | [t] => t
  | t :: next :: rest => t ++ separator ++ joinWith separator (next :: rest)

def unlines (ls : List Text) : Text := joinWith ['\n'] ls

/-- A text without the longest ending made of characters that satisfy `p`. -/
def dropEndWhile (p : Char → Bool) : Text → Text
  | [] => []
  | c :: rest =>
    match dropEndWhile p rest with
    | [] => if p c then [] else [c]
    | kept => c :: kept

def startsWith (t phrase : Text) : Bool := phrase.isPrefixOf t

def repeated (t : Text) : Nat → Text
  | 0 => []
  | n + 1 => t ++ repeated t n

def ofNat (n : Nat) : Text := Nat.toDigits 10 n

def ofInt : Int → Text
  | .ofNat n => ofNat n
  | .negSucc n => '-' :: ofNat (n + 1)

theorem splitBy_ne_nil (p : Char → Bool) (t : Text) : splitBy p t ≠ [] := by
  induction t with
  | nil => simp [splitBy]
  | cons c rest ih =>
    unfold splitBy
    split
    · simp
    · split <;> simp

theorem lines_ne_nil (t : Text) : lines t ≠ [] := splitBy_ne_nil _ t

/-- Splitting at a separator cuts a text in two independent parts. -/
theorem splitBy_append_cons {p : Char → Bool} {c : Char} (hc : p c = true) (a b : Text) :
    splitBy p (a ++ c :: b) = splitBy p a ++ splitBy p b := by
  induction a with
  | nil => simp [splitBy, hc]
  | cons x a ih =>
    simp only [List.cons_append, splitBy, ih]
    split
    · rfl
    · cases h : splitBy p a with
      | nil => exact absurd h (splitBy_ne_nil p a)
      | cons piece pieces => rfl

end Text

end Playground
