import Playground.Markup.Names
import Playground.Text.Hex
import Playground.Value.Fault

namespace Playground.Markup

/-- The characters that the numbers of the upper control range stand for. -/
def controlReplacements : List (Nat × Nat) :=
  [(0x80, 0x20AC), (0x82, 0x201A), (0x83, 0x192), (0x84, 0x201E), (0x85, 0x2026), (0x86, 0x2020),
   (0x87, 0x2021), (0x88, 0x2C6), (0x89, 0x2030), (0x8A, 0x160), (0x8B, 0x2039), (0x8C, 0x152),
   (0x8E, 0x17D), (0x91, 0x2018), (0x92, 0x2019), (0x93, 0x201C), (0x94, 0x201D), (0x95, 0x2022),
   (0x96, 0x2013), (0x97, 0x2014), (0x98, 0x2DC), (0x99, 0x2122), (0x9A, 0x161), (0x9B, 0x203A),
   (0x9C, 0x153), (0x9E, 0x17E), (0x9F, 0x178)]

/-- Whether a number is no character that a reference may stand for: a control other than a line end or tab,
or one of the code points that are set aside for ever. -/
def isForbidden (n : Nat) : Bool :=
  (1 ≤ n && n ≤ 8) || n == 0xB || (0xE ≤ n && n ≤ 0x1F) || (0x7F ≤ n && n ≤ 0x9F) ||
    (0xFDD0 ≤ n && n ≤ 0xFDEF) || n % 0x10000 == 0xFFFE || n % 0x10000 == 0xFFFF

def numericMeaning (n : Nat) : Text :=
  match controlReplacements.lookup n with
  | some c => [Char.ofNat c]
  | none =>
    if n == 0 || (0xD800 ≤ n && n ≤ 0xDFFF) || 0x10FFFF < n then ['\uFFFD']
    else if 0x80 ≤ n && n ≤ 0x9F then [Char.ofNat n]
    else if n == 0xD then ['\r']
    else if isForbidden n then []
    else [Char.ofNat n]

def openName? (name : Text) : Option Text :=
  (openNames.find? fun e => e.1.toList == name).map (·.2.toList)

def closedName? (name : Text) : Option Text :=
  ((openNames ++ closedNames).find? fun e => e.1.toList == name).map (·.2.toList)

/-- The longest beginning, at most `length` and at least two characters long, that is a name without a
semicolon: what it stands for and its length. -/
def openBeginning? (name : Text) : (length : Nat) → Option (Text × Nat)
  | 0 | 1 => none
  | length + 1 => match openName? (name.take (length + 1)) with
    | some meaning => some (meaning, length + 1)
    | none => openBeginning? name length

def isNameChar (c : Char) : Bool :=
  !(c == '\t' || c == '\n' || c == '\x0C' || c == ' ' || c == '<' || c == '&' || c == '#' || c == ';')

def maxNameLength : Nat := 32

def isDigitOf (base : Nat) (c : Char) : Bool :=
  match Text.hexValue? c with
  | some d => d < base
  | none => false

/-- A number in a base behind a mark of the given length: what it stands for as a reference, and how many characters
it takes with its mark, and with the semicolon if there is one. -/
def readNumeric? (base mark : Nat) (t : Text) : Option (Text × Nat) :=
  let digits := (t.drop mark).takeWhile (isDigitOf base)
  let n := digits.foldl (fun n c => n * base + (Text.hexValue? c).getD 0) 0
  let length := mark + digits.length
  if digits.isEmpty then none
  else some (numericMeaning n, if (t.drop length).head? == some ';' then length + 1 else length)

/-- A numeric reference whose hash sign has just been passed. Too many decimal digits are a fault, zeros in front of
others included. -/
def numericReference? (t : Text) : Except Fault (Option (Text × Nat)) :=
  if t.head? == some 'x' || t.head? == some 'X' then .ok (readNumeric? 16 1 t)
  else
    let count := (t.takeWhile Char.isDigit).length
    if Decimal.maxDigits < count then .error (.tooManyDigits count) else .ok (readNumeric? 10 0 t)

/-- A named reference whose ampersand has just been passed: what it stands for and how many characters it
takes from there on. The whole name is tried first, then its beginnings. -/
def namedReference? (t : Text) : Option (Text × Nat) :=
  let name := (t.take maxNameLength).takeWhile isNameChar
  if (t.drop name.length).head? == some ';' then
    match closedName? name with
    | some meaning => some (meaning, name.length + 1)
    | none => openBeginning? name name.length
  else openBeginning? name name.length

def reference? (t : Text) : Except Fault (Option (Text × Nat)) :=
  match t with
  | '#' :: rest => do return (← numericReference? rest).map fun (meaning, length) => (meaning, length + 1)
  | _ => .ok (namedReference? t)

/-- Decodes what is left of a text after `skip` more characters of a reference have been passed over. -/
def unescapeFrom : (skip : Nat) → Text → Except Fault Text
  | _, [] => .ok []
  | skip + 1, _ :: rest => unescapeFrom skip rest
  | 0, '&' :: rest => do
    match ← reference? rest with
    | some (meaning, length) => return meaning ++ (← unescapeFrom length rest)
    | none => return '&' :: (← unescapeFrom 0 rest)
  | 0, c :: rest => do return c :: (← unescapeFrom 0 rest)

/-- A text with every character reference replaced by what it stands for, unless there is one that cannot be read. -/
def unescape (t : Text) : Except Fault Text := unescapeFrom 0 t

end Playground.Markup
