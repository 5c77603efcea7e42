import Playground.Decimal.Layout
import Playground.Decimal.Reading
import Playground.Text.Quoted
import Playground.Value.Basic

namespace Playground.Value

/-- Numbers are positional from `10 ^ -4` up to below `10 ^ 16`; an exponent has at least two digits. -/
def numberLayout : Decimal.Layout where
  plainFrom := -4
  plainBelow := 16
  exponentWidth := 2
  nan := "nan"
  infinity := "inf"

def displayDate (d : Date) : Text :=
  "datetime.date(".toList ++
    Text.joinWith ", ".toList [Text.ofNat d.year, Text.ofNat d.month, Text.ofNat d.day] ++ [')']

/-- A span of minutes as a message displays it: whole days, counted down for a negative span, and seconds. -/
def displaySpan (minutes : Int) : Text :=
  let days := minutes / 1440
  let seconds := minutes % 1440 * 60
  let parts := (if days == 0 then [] else ["days=".toList ++ Text.ofInt days]) ++
    if seconds == 0 then [] else ["seconds=".toList ++ Text.ofInt seconds]
  "datetime.timedelta(".toList ++ (if parts.isEmpty then ['0'] else Text.joinWith ", ".toList parts) ++ [')']

/-- A time as a message displays it; seconds and microseconds that are zero are left out at the end. -/
def displayDateTime (t : DateTime) : Text :=
  let ending :=
    if t.microsecond != 0 then [t.second, t.microsecond] else if t.second != 0 then [t.second] else []
  let numbers := [t.date.year, t.date.month, t.date.day, t.hour, t.minute] ++ ending
  let zone := match t.offset with
    | none => []
    | some offset =>
      if offset == 0 then ["tzinfo=datetime.timezone.utc".toList]
      else ["tzinfo=datetime.timezone(".toList ++ displaySpan offset ++ [')']]
  "datetime.datetime(".toList ++ Text.joinWith ", ".toList (numbers.map Text.ofNat ++ zone) ++ [')']

mutual

/-- A value as a message displays it: texts in quotes, containers in brackets. -/
def display : Value → Text
  | null => "None".toList
  | bool true => "True".toList
  | bool false => "False".toList
  | int n => Text.ofInt n
  | float x => numberLayout.float x
  | str t => t.quoted
  | date d => displayDate d
  | datetime t => displayDateTime t
  | list items => '[' :: displayItems items ++ [']']
  | map entries => '{' :: displayEntries entries ++ ['}']

def displayItems : List Value → Text
  | [] => []
  | [v] => display v
  | v :: next :: rest => display v ++ ", ".toList ++ displayItems (next :: rest)

def displayEntries : List (Value × Value) → Text
  | [] => []
  | [(k, v)] => display k ++ ": ".toList ++ display v
  | (k, v) :: next :: rest =>
    display k ++ ": ".toList ++ display v ++ ", ".toList ++ displayEntries (next :: rest)

end

mutual

/-- Whether a value can be displayed: no integer in it has more digits than one may be written with. -/
def isDisplayable : Value → Bool
  | int n => (Text.ofNat n.natAbs).length ≤ Decimal.maxDigits
  | list items => areDisplayable items
  | map entries => entriesAreDisplayable entries
  | _ => true

def areDisplayable : List Value → Bool
  | [] => true
  | v :: rest => isDisplayable v && areDisplayable rest

def entriesAreDisplayable : List (Value × Value) → Bool
  | [] => true
  | (k, v) :: rest => isDisplayable k && isDisplayable v && entriesAreDisplayable rest

end

def dateInText (d : Date) : Text :=
  Decimal.padded 4 d.year ++ '-' :: Decimal.padded 2 d.month ++ '-' :: Decimal.padded 2 d.day

def dateTimeInText (t : DateTime) : Text :=
  let clock (hours minutes : Nat) := Decimal.padded 2 hours ++ ':' :: Decimal.padded 2 minutes
  let fraction := if t.microsecond == 0 then [] else '.' :: Decimal.padded 6 t.microsecond
  let zone := match t.offset with
    | none => []
    | some offset => (if offset < 0 then '-' else '+') :: clock (offset.natAbs / 60) (offset.natAbs % 60)
  dateInText t.date ++ ' ' :: clock t.hour t.minute ++ ':' :: Decimal.padded 2 t.second ++ fraction ++ zone

/-- A value inside running text: a text as it is, dates and times by their numbers, anything else as displayed. -/
def inText : Value → Text
  | str t => t
  | date d => dateInText d
  | datetime t => dateTimeInText t
  | v => display v

end Playground.Value
