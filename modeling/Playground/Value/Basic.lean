import Playground.Decimal.Binary
import Playground.Text.Basic

namespace Playground

structure Date where
  year : Nat
  month : Nat
  day : Nat
deriving Repr, DecidableEq

namespace Date

def daysIn (year month : Nat) : Nat :=
  if month == 2 then
    if year % 4 == 0 && (year % 100 != 0 || year % 400 == 0) then 29 else 28
  else if [4, 6, 9, 11].contains month then 30
  else 31

/-- The position of a date among all dates; the first day of the year one is the first. -/
def ordinal (d : Date) : Nat :=
  let years := d.year - 1
  let inYear := (List.range (d.month - 1)).foldl (fun days m => days + daysIn d.year (m + 1)) d.day
  years * 365 + years / 4 - years / 100 + years / 400 + inYear

end Date

/-- A date with a time of day, and with the minutes by which its zone is ahead if it names one. -/
structure DateTime where
  date : Date
  hour : Nat
  minute : Nat
  second : Nat
  microsecond : Nat
  offset : Option Int
deriving Repr, DecidableEq

/-- The microseconds that have passed up to a time, in its zone if it names none. -/
def DateTime.instant (t : DateTime) : Int :=
  let minutes := (t.date.ordinal * 24 + t.hour) * 60 + t.minute
  ((minutes - t.offset.getD 0) * 60 + t.second) * 1000000 + t.microsecond

inductive Value where
  | null
  | bool (b : Bool)
  | int (n : Int)
  | float (x : Float)
  | str (t : Text)
  | date (d : Date)
  | datetime (t : DateTime)
  | list (items : List Value)
  | map (entries : List (Value × Value))
deriving Inhabited

inductive Kind where
  | null | bool | int | float | str | date | datetime | list | map
deriving Repr, DecidableEq

def Kind.name : Kind → String
  | .null => "NoneType"
  | .bool => "bool"
  | .int => "int"
  | .float => "float"
  | .str => "str"
  | .date => "date"
  | .datetime => "datetime"
  | .list => "list"
  | .map => "dict"

/-- The name of a kind with its module, which only dates and times have. -/
def Kind.qualifiedName : Kind → String
  | .date => "datetime.date"
  | .datetime => "datetime.datetime"
  | k => k.name

namespace Value

def kind : Value → Kind
  | null => .null
  | bool _ => .bool
  | int _ => .int
  | float _ => .float
  | str _ => .str
  | date _ => .date
  | datetime _ => .datetime
  | list _ => .list
  | map _ => .map

/-- Whether a value counts as something: empty texts and containers, zero, null and false do not. -/
def isSome : Value → Bool
  | null => false
  | bool b => b
  | int n => n != 0
  | float x => !(x == 0)
  | str t => !t.isEmpty
  | date _ | datetime _ => true
  | list items => !items.isEmpty
  | map entries => !entries.isEmpty

/-- Whether a value can be the key of an entry: containers cannot. -/
def isKey : Value → Bool
  | list _ | map _ => false
  | _ => true

def floatIsInt (x : Float) (n : Int) : Bool :=
  match Decimal.Parts.ofFloat x with
  | .finite negative b =>
    let exact := if b.scale < 0 then b.mantissa % (1 <<< b.scale.natAbs) == 0 else true
    exact && (if negative then -(b.floor : Int) else (b.floor : Int)) == n
  | _ => false

/-- Whether two keys are the same key. Numbers are compared by value, and truth values count as numbers; times with zones
are compared as instants. -/
def sameKey : Value → Value → Bool
  | null, null => true
  | str a, str b => a == b
  | date a, date b => a == b
  | datetime a, datetime b => a.offset.isSome == b.offset.isSome && a.instant == b.instant
  | bool a, bool b => a == b
  | int a, int b => a == b
  | float a, float b => a == b
  | bool a, int b | int b, bool a => (if a then 1 else 0) == b
  | bool a, float b | float b, bool a => floatIsInt b (if a then 1 else 0)
  | int a, float b | float b, int a => floatIsInt b a
  | _, _ => false

/-- Entries with a key set to a value. A new key goes to the end; a present one keeps its place. -/
def put (key value : Value) : List (Value × Value) → List (Value × Value)
  | [] => [(key, value)]
  | (k, v) :: rest => if sameKey k key then (k, value) :: rest else (k, v) :: put key value rest

def ofPairs (pairs : List (Value × Value)) : List (Value × Value) :=
  pairs.foldl (fun entries (k, v) => put k v entries) []

def field? (key : Text) : List (Value × Value) → Option Value
  | [] => none
  | (.str k, v) :: rest => if k == key then some v else field? key rest
  | _ :: rest => field? key rest

mutual

def same : Value → Value → Bool
  | null, null => true
  | bool a, bool b => a == b
  | int a, int b => a == b
  | float a, float b => a.toBits == b.toBits
  | str a, str b => a == b
  | date a, date b => a == b
  | datetime a, datetime b => a == b
  | list a, list b => sameItems a b
  | map a, map b => sameEntries a b
  | _, _ => false

def sameItems : List Value → List Value → Bool
  | [], [] => true
  | v :: vs, w :: ws => same v w && sameItems vs ws
  | _, _ => false

def sameEntries : List (Value × Value) → List (Value × Value) → Bool
  | [], [] => true
  | (k, v) :: vs, (l, w) :: ws => same k l && same v w && sameEntries vs ws
  | _, _ => false

end

end Value

end Playground
