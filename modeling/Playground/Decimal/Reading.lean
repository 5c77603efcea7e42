import Playground.Text.Blank
import Playground.Text.DecimalDigit

namespace Playground.Decimal

def ofDigits (base : Nat) (digits : Text) : Nat :=
  digits.foldl (fun n c => n * base + (c.toNat - '0'.toNat)) 0

/-- The float nearest to `digits * 10 ^ exponent`, infinite from halfway past the greatest finite one. -/
def toFloat (negative : Bool) (digits : Nat) (exponent : Int) : Float :=
  let leading : Int := (Text.ofNat digits).length + exponent
  let magnitude :=
    if digits == 0 || leading < -400 then 0.0
    else if leading > 400 then 1.0 / 0.0
    else Float.ofScientific digits (exponent < 0) exponent.natAbs
  if negative then -magnitude else magnitude

inductive IntegerFault where
  | malformed
  | tooManyDigits (count : Nat)
deriving Repr, DecidableEq

/-- The greatest number of digits that an integer may be read from or written with. -/
def maxDigits : Nat := 4300

/-- The longest run of digits in front of a text, an underscore allowed between two digits, and the rest.
No result if an underscore stands elsewhere. -/
def digitRun? : (afterDigit : Bool) → Text → Option (List Nat × Text)
  | afterDigit, [] => if afterDigit then some ([], []) else none
  | afterDigit, c :: rest =>
    match Text.digitValue? c with
    | some d => (digitRun? true rest).map fun (ds, rest) => (d :: ds, rest)
    | none =>
      if c == '_' then if afterDigit then digitRun? false rest else none
      else if afterDigit then some ([], c :: rest) else none

/-- Whether a character may surround an integer: a blank other than the ASCII separators. -/
def isIntegerMargin (c : Char) : Bool := Text.isBlank c && !(0x1C ≤ c.toNat && c.toNat ≤ 0x1F)

def readInteger (t : Text) : Except IntegerFault Int :=
  let body := t.dropWhile isIntegerMargin
  let (negative, unsigned) := match body with
    | '-' :: rest => (true, rest)
    | '+' :: rest => (false, rest)
    | _ => (false, body)
  match digitRun? false unsigned with
  | none => .error .malformed
  | some (ds, rest) =>
    if ds.length > maxDigits then .error (.tooManyDigits ds.length)
    else if rest.all isIntegerMargin then
      let n : Nat := ds.foldl (fun n d => n * 10 + d) 0
      .ok (if negative then -(n : Int) else n)
    else .error .malformed

end Playground.Decimal
