import Playground.Decimal.Reading
import Playground.Json.Fault
import Playground.Text.Hex
import Playground.Value.Basic

namespace Playground.Json

def faultAt {α : Type} (cause : Cause) (t : Text) : Except Fault (α × Text) := .error (.malformed cause t.length)

def isSpace (c : Char) : Bool := c == ' ' || c == '\t' || c == '\n' || c == '\r'

def skipSpace (t : Text) : Text := t.dropWhile isSpace

/-- The number written by the four hexadecimal digits in front of a text. More text must follow them. -/
def fourHex? : Text → Option (Nat × Text)
  | a :: b :: c :: d :: e :: rest => (Text.ofHex? [a, b, c, d]).map (·, e :: rest)
  | _ => none

/-- The character of a `u` escape, given the text from the `u` on. Two escapes may join to one character; half a pair
that stays alone, which no text holds, becomes the replacement character. -/
def unicodeEscape (fromU : Text) : Except Fault (Char × Text) :=
  match fourHex? (fromU.drop 1) with
  | none => faultAt .badUnicodeEscape fromU
  | some (high, rest) =>
    if 0xD800 ≤ high ∧ high < 0xDC00 ∧ 6 < rest.length then
      match rest with
      | '\\' :: 'u' :: digits =>
        match fourHex? digits with
        | none => faultAt .badUnicodeEscape ('u' :: digits)
        | some (low, rest') =>
          if 0xDC00 ≤ low ∧ low < 0xE000 then
            .ok (Char.ofNat (0x10000 + (high - 0xD800) * 0x400 + (low - 0xDC00)), rest')
          else .ok ('\uFFFD', rest)
      | _ => .ok ('\uFFFD', rest)
    else if 0xD800 ≤ high ∧ high < 0xE000 then .ok ('\uFFFD', rest)
    else .ok (Char.ofNat high, rest)

/-- The character that an escape writes, given the text after the backslash. The string that it belongs to
starts at the front of `start`. -/
def escape (start : Text) : Text → Except Fault (Char × Text)
  | [] => faultAt .unterminatedString start
  | '"' :: rest => .ok ('"', rest)
  | '\\' :: rest => .ok ('\\', rest)
  | '/' :: rest => .ok ('/', rest)
  | 'b' :: rest => .ok ('\x08', rest)
  | 'f' :: rest => .ok ('\x0C', rest)
  | 'n' :: rest => .ok ('\n', rest)
  | 'r' :: rest => .ok ('\r', rest)
  | 't' :: rest => .ok ('\t', rest)
  | 'u' :: rest => unicodeEscape ('u' :: rest)
  | c :: rest => faultAt .badEscape ('\\' :: c :: rest)

/-- The string at the front of `start`, given the text after its opening quote. The fuel bounds the number
of characters. -/
def string (start : Text) : Nat → Text → Except Fault (Text × Text)
  | 0, _ => faultAt .unterminatedString start
  | _, [] => faultAt .unterminatedString start
  | _, '"' :: rest => .ok ([], rest)
  | fuel + 1, '\\' :: rest => do
    let (c, rest) ← escape start rest
    let (cs, rest) ← string start fuel rest
    return (c :: cs, rest)
  | fuel + 1, c :: rest =>
    if c.toNat < 0x20 then faultAt .controlCharacter (c :: rest)
    else do
      let (cs, rest) ← string start fuel rest
      return (c :: cs, rest)

def digits (t : Text) : Text × Text := t.span Char.isDigit

/-- The digits of the integer part: a zero alone, or digits that do not start with one. -/
def wholePart : Text → Option (Text × Text)
  | '0' :: rest => some (['0'], rest)
  | t => match digits t with
    | ([], _) => none
    | found => some found

/-- The digits of a fraction; a point without a digit after it is left alone. -/
def fractionPart : Text → Text × Text
  | '.' :: rest => match digits rest with
    | ([], _) => ([], '.' :: rest)
    | found => found
  | t => ([], t)

/-- The exponent; its mark without a digit after it is left alone. -/
def exponentPart (t : Text) : Option Int × Text :=
  match t with
  | [] => (none, t)
  | mark :: rest =>
    if mark == 'e' || mark == 'E' then
      let (negative, unsigned) := match rest with
        | '-' :: r => (true, r)
        | '+' :: r => (false, r)
        | _ => (false, rest)
      match digits unsigned with
      | ([], _) => (none, t)
      | (ds, r) =>
        let n : Int := Decimal.ofDigits 10 ds
        (some (if negative then -n else n), r)
    else (none, t)

def number (t : Text) : Except Fault (Value × Text) :=
  let (negative, unsigned) := match t with
    | '-' :: rest => (true, rest)
    | _ => (false, t)
  match wholePart unsigned with
  | none => faultAt .expectedValue t
  | some (whole, afterWhole) =>
    let (fraction, afterFraction) := fractionPart afterWhole
    let (exponent, rest) := exponentPart afterFraction
    if fraction.isEmpty && exponent.isNone then
      if whole.length > Decimal.maxDigits then .error (.tooManyDigits whole.length)
      else
        let n : Int := Decimal.ofDigits 10 whole
        .ok (.int (if negative then -n else n), rest)
    else
      let m := Decimal.ofDigits 10 (whole ++ fraction)
      .ok (.float (Decimal.toFloat negative m (exponent.getD 0 - fraction.length)), rest)

def literals : List (Text × Value) :=
  [("null".toList, .null), ("true".toList, .bool true), ("false".toList, .bool false),
   ("NaN".toList, .float (0.0 / 0.0)), ("Infinity".toList, .float (1.0 / 0.0)),
   ("-Infinity".toList, .float (-1.0 / 0.0))]

def atom (t : Text) : Except Fault (Value × Text) :=
  match literals.find? fun l => t.startsWith l.1 with
  | some (word, v) => .ok (v, t.drop word.length)
  | none => number t

mutual

/-- A value at the front of the text. The fuel bounds the number of parts and characters; a list and its first
item start at the same character, so twice the length of the text is enough for both. -/
def value : Nat → Text → Except Fault (Value × Text)
  | 0, t => faultAt .expectedValue t
  | fuel + 1, '"' :: rest => do
    let (s, rest') ← string ('"' :: rest) fuel rest
    return (.str s, rest')
  | fuel + 1, '[' :: rest =>
    match skipSpace rest with
    | ']' :: rest' => .ok (.list [], rest')
    | start => do
      let (vs, rest') ← items fuel start
      return (.list vs, rest')
  | fuel + 1, '{' :: rest =>
    match skipSpace rest with
    | '}' :: rest' => .ok (.map [], rest')
    | start => do
      let (pairs, rest') ← members fuel start
      return (.map (Value.ofPairs pairs), rest')
  | _ + 1, t => atom t

/-- The items of an array from the first one on, up to the closing bracket. -/
def items : Nat → Text → Except Fault (List Value × Text)
  | 0, t => faultAt .expectedValue t
  | fuel + 1, t => do
    let (v, rest) ← value fuel t
    match skipSpace rest with
    | ']' :: rest' => return ([v], rest')
    | ',' :: rest' =>
      let (vs, rest'') ← items fuel (skipSpace rest')
      return (v :: vs, rest'')
    | other => faultAt .expectedComma other

/-- The members of an object from the first name on, up to the closing brace. -/
def members : Nat → Text → Except Fault (List (Value × Value) × Text)
  | 0, t => faultAt .expectedName t
  | fuel + 1, '"' :: rest => do
    let (name, rest) ← string ('"' :: rest) fuel rest
    match skipSpace rest with
    | ':' :: rest =>
      let (v, rest) ← value fuel (skipSpace rest)
      match skipSpace rest with
      | '}' :: rest' => return ([(.str name, v)], rest')
      | ',' :: rest' =>
        let (more, rest'') ← members fuel (skipSpace rest')
        return ((.str name, v) :: more, rest'')
      | other => faultAt .expectedComma other
    | other => faultAt .expectedColon other
  | _ + 1, t => faultAt .expectedName t

end

/-- The value that a text writes, with nothing but white space around it. -/
def parse (t : Text) : Except Fault Value :=
  match t with
  | '\uFEFF' :: _ => .error (.malformed .byteOrderMark t.length)
  | _ => do
    let (v, rest) ← value (2 * t.length + 2) (skipSpace t)
    match skipSpace rest with
    | [] => return v
    | extra => .error (.malformed .extraData extra.length)

def Fault.message (text : Text) : Fault → Text
  | .malformed cause left => cause.locate text (text.length - left)
  | .tooManyDigits count =>
    "Exceeds the limit (4300 digits) for integer string conversion: value has ".toList ++ Text.ofNat count ++
      " digits; use sys.set_int_max_str_digits() to increase the limit".toList

end Playground.Json
