import Playground.Value.Fault

namespace Playground.Value

/-- Whether one value sorts before another; texts by their characters, numbers by size. -/
def less : Value → Value → Except Fault Bool
  | str a, str b => .ok (a < b)
  | int a, int b => .ok (a < b)
  | date a, date b => .ok ([a.year, a.month, a.day] < [b.year, b.month, b.day])
  | datetime a, datetime b =>
    if a.offset.isSome == b.offset.isSome then .ok (a.instant < b.instant) else .error .timeAgainstZone
  | date _, datetime _ | datetime _, date _ => .error .timeAgainstDate
  | a, b => match number? a, number? b with
    | some x, some y => .ok (x < y)
    | _, _ => .error (.incomparable a.kind b.kind)
where
  number? : Value → Option Float
    | bool b => some (if b then 1 else 0)
    | int n => some (Float.ofInt n)
    | float x => some x
    | _ => none

/-- Puts an element in its place among sorted ones, after those with a lesser or equal key. -/
def insertBy {α : Type} (key : α → Value) (x : α) : List α → Except Fault (List α)
  | [] => .ok [x]
  | y :: rest => do
    if ← less (key x) (key y) then return x :: y :: rest
    else return y :: (← insertBy key x rest)

/-- Elements sorted by their keys. Keys without an order are a fault. -/
def sortBy {α : Type} (key : α → Value) (xs : List α) : Except Fault (List α) :=
  xs.foldlM (fun sorted x => insertBy key x sorted) []

end Playground.Value
