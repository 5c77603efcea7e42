import Playground.Decimal.Reading
import Playground.Value.Display

namespace Playground

/-- Why a value could not be used as asked. -/
inductive Fault where
  | missingKey (key : Text)
  | notSubscriptable (kind : Kind)
  /-- The value's parts are looked up by position, not by text. -/
  | notKeyed (kind : Kind)
  | noOperation (kind : Kind) (name : String)
  | notIterable (kind : Kind)
  | notSearchable (kind : Kind)
  /-- The value is no text in which references could be replaced. -/
  | notText (kind : Kind)
  | unhashable (kind : Kind)
  | notJoinable (position : Nat) (kind : Kind)
  /-- The value names no member of a family. -/
  | notMember (value : Value) (family : String)
  | notNumeric (kind : Kind)
  | malformedInteger (t : Text) (base : Nat)
  | tooManyDigits (count : Nat)
  | tooLongToWrite
  | nanToInteger
  | infiniteToInteger
  | noSuchYear
  | noSuchMonth
  | noSuchDate
  /-- The day has no such hour, the hour no such minute, the minute no such second. -/
  | noSuchHour
  | noSuchMinute
  | noSuchSecond
  /-- The zone is a day or more ahead or behind. -/
  | offsetTooLarge (minutes : Int)
  | noSuchCharacter
  | characterTooLarge
  | integerTooLarge
  | notWritable (kind : Kind)
  | notWritableKey (kind : Kind)
  | incomparable (left right : Kind)
  /-- A time has no order with a date, and none with a time of which only one names a zone. -/
  | timeAgainstDate
  | timeAgainstZone

/-- The sorts of faults: an absent key, a wrong kind of value, a wrong content, a missing operation, a number out of
range. -/
inductive Fault.Class where
  | absent
  | kind
  | content
  | operation
  | range
deriving Repr, DecidableEq

namespace Fault

def sort : Fault → Class
  | missingKey _ => .absent
  | noOperation .. => .operation
  | notMember .. | malformedInteger .. | tooManyDigits _ | tooLongToWrite | nanToInteger => .content
  | noSuchYear | noSuchMonth | noSuchDate | noSuchCharacter => .content
  | noSuchHour | noSuchMinute | noSuchSecond | offsetTooLarge _ => .content
  | infiniteToInteger | integerTooLarge | characterTooLarge => .range
  | _ => .kind

private def named (k : Kind) : String := "'" ++ k.qualifiedName ++ "'"

def message : Fault → Text
  | missingKey key => key.quoted
  | notSubscriptable k => (named k ++ " object is not subscriptable").toList
  | notKeyed .str => "string indices must be integers, not 'str'".toList
  | notKeyed k => (k.qualifiedName ++ " indices must be integers or slices, not str").toList
  | noOperation k name => (named k ++ " object has no attribute '" ++ name ++ "'").toList
  | notIterable k => (named k ++ " object is not iterable").toList
  | notSearchable k => ("argument of type " ++ named k ++ " is not iterable").toList
  | notText k => ("expected string or bytes-like object, got " ++ named k).toList
  | unhashable k => ("unhashable type: " ++ named k).toList
  | notJoinable position k =>
    "sequence item ".toList ++ Text.ofNat position ++
      (": expected str instance, " ++ k.qualifiedName ++ " found").toList
  | notMember v family => v.display ++ (" is not a valid " ++ family).toList
  | notNumeric k =>
    ("int() argument must be a string, a bytes-like object or a real number, not " ++ named k).toList
  | malformedInteger t base =>
    "invalid literal for int() with base ".toList ++ Text.ofNat base ++ ": ".toList ++ t.quoted.take 200
  | tooManyDigits count =>
    ("Exceeds the limit (4300 digits) for integer string conversion: value has ").toList ++ Text.ofNat count ++
      " digits; use sys.set_int_max_str_digits() to increase the limit".toList
  | tooLongToWrite =>
    ("Exceeds the limit (4300 digits) for integer string conversion; " ++
      "use sys.set_int_max_str_digits() to increase the limit").toList
  | nanToInteger => "cannot convert float NaN to integer".toList
  | infiniteToInteger => "cannot convert float infinity to integer".toList
  | noSuchYear => "year 0 is out of range".toList
  | noSuchMonth => "month must be in 1..12".toList
  | noSuchDate => "day is out of range for month".toList
  | noSuchHour => "hour must be in 0..23".toList
  | noSuchMinute => "minute must be in 0..59".toList
  | noSuchSecond => "second must be in 0..59".toList
  | offsetTooLarge minutes =>
    ("offset must be a timedelta strictly between -timedelta(hours=24) and " ++
      "timedelta(hours=24), not ").toList ++ Value.displaySpan minutes ++ ['.']
  | noSuchCharacter => "chr() arg not in range(0x110000)".toList
  | characterTooLarge => "Python int too large to convert to C int".toList
  | integerTooLarge => "int too large to convert to float".toList
  | notWritable k => ("Object of type " ++ k.name ++ " is not JSON serializable").toList
  | notWritableKey k => ("keys must be str, int, float, bool or None, not " ++ k.qualifiedName).toList
  | incomparable left right =>
    ("'<' not supported between instances of " ++ named left ++ " and " ++ named right).toList
  | timeAgainstDate => "can't compare datetime.datetime to datetime.date".toList
  | timeAgainstZone => "can't compare offset-naive and offset-aware datetimes".toList

end Fault

namespace Value

def lookup (v : Value) (key : Text) : Except Fault Value :=
  match v with
  | map entries => match field? key entries with
    | some found => .ok found
    | none => .error (.missingKey key)
  | list _ | str _ => .error (.notKeyed v.kind)
  | _ => .error (.notSubscriptable v.kind)

/-- The value under a key of a mapping, or a default if the key is absent. -/
def lookupD (v : Value) (key : Text) (default : Value) : Except Fault Value :=
  match v with
  | map entries => .ok ((field? key entries).getD default)
  | _ => .error (.noOperation v.kind "get")

/-- The items that going through a value yields: of a text its characters, of a mapping its keys. -/
def items : Value → Except Fault (List Value)
  | list vs => .ok vs
  | str t => .ok (t.map fun c => str [c])
  | map entries => .ok (entries.map (·.1))
  | v => .error (.notIterable v.kind)

/-- The integer that a value stands for: floats lose their fraction, texts are read. -/
def toInteger : Value → Except Fault Int
  | bool b => .ok (if b then 1 else 0)
  | int n => .ok n
  | float x => match Decimal.Parts.ofFloat x with
    | .nan => .error .nanToInteger
    | .infinite _ => .error .infiniteToInteger
    | .finite negative b => .ok (if negative then -(b.floor : Int) else b.floor)
  | str t => match Decimal.readInteger t with
    | .ok n => .ok n
    | .error .malformed => .error (.malformedInteger t 10)
    | .error (.tooManyDigits count) => .error (.tooManyDigits count)
  | v => .error (.notNumeric v.kind)

end Value

end Playground
