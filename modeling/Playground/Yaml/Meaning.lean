import Playground.Text.Hex
import Playground.Yaml.Basic

namespace Playground.Yaml

inductive Meaning where
  | null
  | bool (b : Bool)
  | int
  | float
  | timestamp
  /-- The key that merges mappings. -/
  | merge
  /-- The key that names a default value. -/
  | default
  | text
deriving Repr, DecidableEq

/-- Whether a text is one or more characters that satisfy `p`. -/
def someOf (p : Char → Bool) (t : Text) : Bool := !t.isEmpty && t.all p

def isDigitOrUnderscore (c : Char) : Bool := c.isDigit || c == '_'

def isDigits : Text → Bool
  | c :: rest => c.isDigit && rest.all isDigitOrUnderscore
  | [] => false

/-- Whether a text is a digit, or a digit up to five and another one. -/
def isSixtieth : Text → Bool
  | [c] => c.isDigit
  | [c, d] => '0' ≤ c && c ≤ '5' && d.isDigit
  | _ => false

def dropSign : Text → Text
  | '-' :: rest | '+' :: rest => rest
  | t => t

/-- Whether a text writes an integer: in base two, eight, ten or sixteen, or in base sixty with colons. -/
def isInt (t : Text) : Bool :=
  match dropSign t with
  | '0' :: 'b' :: rest => someOf (fun c => c == '0' || c == '1' || c == '_') rest
  | '0' :: 'x' :: rest =>
    someOf (fun c => isDigitOrUnderscore c || ('a' ≤ c && c ≤ 'f') || ('A' ≤ c && c ≤ 'F')) rest
  | '0' :: rest => rest.all fun c => ('0' ≤ c && c ≤ '7') || c == '_'
  | unsigned =>
    match Text.splitBy (· == ':') unsigned with
    | [] => false
    | first :: more => isDigits first && more.all isSixtieth

/-- Whether a text is a power of ten: nothing, or a mark with a signed number. -/
def isExponent : Text → Bool
  | [] => true
  | mark :: sign :: digits =>
    (mark == 'e' || mark == 'E') && (sign == '-' || sign == '+') && someOf Char.isDigit digits
  | _ => false

/-- Whether a text writes a float. The point is never left out. -/
def isFloat (t : Text) : Bool :=
  let unsigned := dropSign t
  let whole := unsigned.takeWhile (· != '.')
  match unsigned.dropWhile (· != '.') with
  | [] => false
  | _ :: fraction =>
    let exponent := fraction.dropWhile isDigitOrUnderscore
    if whole.isEmpty then
      [".inf", ".Inf", ".INF"].any (·.toList == unsigned) || [".nan", ".NaN", ".NAN"].any (·.toList == t) ||
        (t == unsigned && isDigits (fraction.takeWhile isDigitOrUnderscore) && isExponent exponent)
    else if whole.contains ':' then
      match Text.splitBy (· == ':') whole with
      | [] => false
      | first :: more => isDigits first && more.all isSixtieth && exponent.isEmpty
    else isDigits whole && isExponent exponent

def isShort (least most : Nat) (t : Text) : Bool :=
  t.all Char.isDigit && least ≤ t.length && t.length ≤ most

/-- Whether a text is a time zone: nothing, or after blanks the letter `Z` or a signed offset. -/
def isZone (t : Text) : Bool :=
  match t.dropWhile isSpaceOrTab with
  | [] => t.isEmpty
  | ['Z'] => true
  | c :: rest =>
    (c == '-' || c == '+') && match Text.splitBy (· == ':') rest with
      | [hours] => isShort 1 2 hours
      | [hours, minutes] => isShort 1 2 hours && isShort 2 2 minutes
      | _ => false

structure TimeOfDay where
  hours : Text
  minutes : Text
  seconds : Text
  fraction : Text
  zone : Text

/-- The time of day that a text begins with; all that follows the seconds and their fraction is the zone. -/
def TimeOfDay.ofText? (t : Text) : Option TimeOfDay :=
  let hours := t.takeWhile Char.isDigit
  match t.drop hours.length with
  | ':' :: a :: b :: ':' :: c :: d :: rest =>
    let (fraction, zone) := match rest with
      | '.' :: more => (more.takeWhile Char.isDigit, more.dropWhile Char.isDigit)
      | _ => ([], rest)
    some { hours, minutes := [a, b], seconds := [c, d], fraction, zone }
  | _ => none

def isTimeOfDay (t : Text) : Bool :=
  match TimeOfDay.ofText? t with
  | none => false
  | some time => isShort 1 2 time.hours && isShort 2 2 time.minutes && isShort 2 2 time.seconds && isZone time.zone

def datePart? (t : Text) : Option (Text × Text × Text × Text) :=
  let year := t.takeWhile Char.isDigit
  match t.drop year.length with
  | '-' :: rest =>
    let month := rest.takeWhile Char.isDigit
    match rest.drop month.length with
    | '-' :: rest =>
      let day := rest.takeWhile Char.isDigit
      some (year, month, day, rest.drop day.length)
    | _ => none
  | _ => none

/-- Whether a text is a date, or a date and a time of day. Only with a time may month and day have one digit. -/
def isTimestamp (t : Text) : Bool :=
  match datePart? t with
  | none => false
  | some (year, month, day, rest) =>
    isShort 4 4 year && match rest with
      | [] => isShort 2 2 month && isShort 2 2 day
      | c :: more =>
        isShort 1 2 month && isShort 1 2 day &&
          (((c == 'T' || c == 't') && isTimeOfDay more) ||
            (isSpaceOrTab c && isTimeOfDay (more.dropWhile isSpaceOrTab)))

def trueWords : List String := ["yes", "Yes", "YES", "true", "True", "TRUE", "on", "On", "ON"]

def falseWords : List String := ["no", "No", "NO", "false", "False", "FALSE", "off", "Off", "OFF"]

def nullWords : List String := ["", "~", "null", "Null", "NULL"]

def isWordOf (words : List String) (t : Text) : Bool := words.any (·.toList == t)

/-- What a plain scalar means. One that looks like a truth value, a number, a date or nothing is one, every other one
is a text. The writer asks the same question to know which texts need quotes. -/
def Meaning.ofText (t : Text) : Meaning :=
  if isWordOf nullWords t then .null
  else if isWordOf trueWords t then .bool true
  else if isWordOf falseWords t then .bool false
  else if isFloat t then .float
  else if isInt t then .int
  else if isTimestamp t then .timestamp
  else if t == "<<".toList then .merge
  else if t == ['='] then .default
  else .text

def dropUnderscores (t : Text) : Text := t.filter (· != '_')

def signOf (t : Text) : Bool × Text := (t.head? == some '-', dropSign t)

/-- The integer that digits write in a base. No digits, or too many decimal ones, are a fault. -/
def readDigits (base : Nat) (digits : Text) : Except Fault Nat :=
  if digits.isEmpty then .error (.malformedInteger [] base)
  else if base == 10 && digits.length > Decimal.maxDigits then .error (.tooManyDigits digits.length)
  else .ok (digits.foldl (fun n c => n * base + (Text.hexValue? c).getD 0) 0)

def readInt (t : Text) : Except Fault Int := do
  let (negative, unsigned) := signOf (dropUnderscores t)
  let magnitude ← match unsigned with
    | ['0'] => pure 0
    | '0' :: 'b' :: digits => readDigits 2 digits
    | '0' :: 'x' :: digits => readDigits 16 digits
    | '0' :: digits => readDigits 8 ('0' :: digits)
    | _ => (Text.splitBy (· == ':') unsigned).foldlM (fun n part => do return n * 60 + (← readDigits 10 part)) 0
  return if negative then -(magnitude : Int) else magnitude

def readUnsignedFloat (t : Text) : Float :=
  let whole := t.takeWhile Char.isDigit
  let fraction := (t.drop (whole.length + 1)).takeWhile Char.isDigit
  let exponent : Int := match t.drop (whole.length + 1 + fraction.length) with
    | _ :: '-' :: digits => -(Decimal.ofDigits 10 digits : Int)
    | _ :: _ :: digits => Decimal.ofDigits 10 digits
    | _ => 0
  Decimal.toFloat false (Decimal.ofDigits 10 (whole ++ fraction)) (exponent - fraction.length)

/-- The float that sixtieths add up to, the last one first; `unit` is what one of the next is worth, which has to be
within the range of floats. -/
def sumSixtieths (unit : Nat) (sum : Float) : List Text → Except Fault Float
  | [] => .ok sum
  | part :: rest =>
    let worth := Decimal.toFloat false unit 0
    if worth == 1.0 / 0.0 then .error .integerTooLarge
    else sumSixtieths (unit * 60) (sum + readUnsignedFloat part * worth) rest

def readFloat (t : Text) : Except Fault Float := do
  let (negative, unsigned) := signOf (dropUnderscores t)
  let magnitude ← match unsigned with
    | '.' :: c :: _ =>
      if c == 'i' || c == 'I' then pure (1.0 / 0.0)
      else if c == 'n' || c == 'N' then pure (0.0 / 0.0)
      else pure (readUnsignedFloat unsigned)
    | _ =>
      if unsigned.contains ':' then sumSixtieths 1 0 (Text.splitBy (· == ':') unsigned).reverse
      else pure (readUnsignedFloat unsigned)
  return if negative then -magnitude else magnitude

def readDate (year month day : Text) : Except Fault Date :=
  let year := Decimal.ofDigits 10 year
  let month := Decimal.ofDigits 10 month
  let day := Decimal.ofDigits 10 day
  if year == 0 then .error .noSuchYear
  else if month == 0 || 12 < month then .error .noSuchMonth
  else if day == 0 || Date.daysIn year month < day then .error .noSuchDate
  else .ok ⟨year, month, day⟩

/-- The minutes by which a zone is ahead, if it is one. -/
def readZone (t : Text) : Except Fault (Option Int) :=
  match t.dropWhile isSpaceOrTab with
  | [] => .ok none
  | ['Z'] => .ok (some 0)
  | sign :: rest =>
    let (hours, minutes) := match Text.splitBy (· == ':') rest with
      | [hours, minutes] => (hours, minutes)
      | _ => (rest, [])
    let span := Decimal.ofDigits 10 hours * 60 + Decimal.ofDigits 10 minutes
    let offset : Int := if sign == '-' then -span else span
    if span < 24 * 60 then .ok (some offset) else .error (.offsetTooLarge offset)

/-- The time that a time of day writes on a date. The zone is checked first, then the date. -/
def readDateTime (date : Except Fault Date) (time : TimeOfDay) : Except Fault DateTime := do
  let offset ← readZone time.zone
  let date ← date
  let hour := Decimal.ofDigits 10 time.hours
  let minute := Decimal.ofDigits 10 time.minutes
  let second := Decimal.ofDigits 10 time.seconds
  let microsecond := Decimal.ofDigits 10 ((time.fraction ++ List.replicate 6 '0').take 6)
  if 23 < hour then throw .noSuchHour
  if 59 < minute then throw .noSuchMinute
  if 59 < second then throw .noSuchSecond
  return { date, hour, minute, second, microsecond, offset }

def readTimestamp (t : Text) : Except Fault Value :=
  match datePart? t with
  | none => .error .noSuchDate
  | some (year, month, day, rest) =>
    let date := readDate year month day
    match TimeOfDay.ofText? (rest.dropWhile fun c => !c.isDigit) with
    | none => do return .date (← date)
    | some time => do return .datetime (← readDateTime date time)

end Playground.Yaml
