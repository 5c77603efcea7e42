import Playground.Value.Order

namespace Playground.Json

/-- Numbers are written as everywhere else, but the special values have names of their own. -/
def numberLayout : Decimal.Layout :=
  { Value.numberLayout with nan := "NaN", infinity := "Infinity" }

def escapeChar (c : Char) : Text :=
  if c == '"' || c == '\\' then ['\\', c]
  else if c == '\n' then ['\\', 'n']
  else if c == '\r' then ['\\', 'r']
  else if c == '\t' then ['\\', 't']
  else if c == '\x08' then ['\\', 'b']
  else if c == '\x0C' then ['\\', 'f']
  else if c.toNat < 0x20 then '\\' :: 'u' :: Text.hex 4 c.toNat
  else [c]

def renderString (t : Text) : Text := '"' :: t.flatMap escapeChar ++ ['"']

/-- An integer in decimal digits, unless there are too many of them. -/
def renderInt (n : Int) : Except Playground.Fault Text :=
  if (Value.int n).isDisplayable then .ok (Text.ofInt n) else .error .tooLongToWrite

def keyName : Value → Except Playground.Fault Text
  | .str t => .ok t
  | .null => .ok "null".toList
  | .bool b => .ok (if b then "true".toList else "false".toList)
  | .int n => renderInt n
  | .float x => .ok (numberLayout.float x)
  | v => .error (.notWritableKey v.kind)

/-- An entry, given what writing its value came to. -/
def renderEntry (entry : Value × Except Playground.Fault Text) : Except Playground.Fault Text := do
  return renderString (← keyName entry.1) ++ ": ".toList ++ (← entry.2)

mutual

def render : Value → Except Playground.Fault Text
  | .null => .ok "null".toList
  | .bool true => .ok "true".toList
  | .bool false => .ok "false".toList
  | .int n => renderInt n
  | .float x => .ok (numberLayout.float x)
  | .str t => .ok (renderString t)
  | .date _ => .error (.notWritable .date)
  | .datetime _ => .error (.notWritable .datetime)
  | .list vs => do return '[' :: Text.joinWith ", ".toList (← renderItems vs) ++ [']']
  | .map entries => do
    let sorted ← Value.sortBy (·.1) (renderValues entries)
    return '{' :: Text.joinWith ", ".toList (← sorted.mapM renderEntry) ++ ['}']

def renderItems : List Value → Except Playground.Fault (List Text)
  | [] => .ok []
  | v :: rest => do return (← render v) :: (← renderItems rest)

def renderValues : List (Value × Value) → List (Value × Except Playground.Fault Text)
  | [] => []
  | (k, v) :: rest => (k, render v) :: renderValues rest

end

end Playground.Json
