import Playground.Yaml.Meaning
import Playground.Yaml.Node
import Playground.Yaml.Token.Scan

namespace Playground.Yaml

def content {α : Type} : Except Fault α → Except Error α
  | .ok a => .ok a
  | .error fault => .error (.badContent fault)

def scalarValue (t : Text) (plain : Bool) : Except Error Value :=
  if !plain then .ok (.str t)
  else
    match Meaning.ofText t with
    | .null => .ok .null
    | .bool b => .ok (.bool b)
    | .int => do return .int (← content (readInt t))
    | .float => do return .float (← content (readFloat t))
    | .timestamp => content (readTimestamp t)
    | .merge | .default => .error .noMeaning
    | .text => .ok (.str t)

def Node.isMerge : Node → Bool
  | .scalar t plain => plain && t == "<<".toList
  | _ => false

def asKey (v : Value) : Except Error Value :=
  if v.isKey then .ok v else .error .containerKey

mutual

/-- The value that a node describes. Keys keep the order in which they first appear, a repeated key takes the last
value, and merged mappings come before the entries that are written out. -/
def Node.toValue : Node → Except Error Value
  | .scalar t plain => scalarValue t plain
  | .sequence items => do return .list (← toValues items)
  | .mapping entries => do
    let (merged, own) ← toPairs entries
    return .map (Value.ofPairs (merged ++ own))

def toValues : List Node → Except Error (List Value)
  | [] => .ok []
  | n :: rest => do return (← n.toValue) :: (← toValues rest)

def toPairs : List (Node × Node) → Except Error (List (Value × Value) × List (Value × Value))
  | [] => .ok ([], [])
  | (k, v) :: rest => do
    if k.isMerge then
      let first ← toMerged v
      let (merged, own) ← toPairs rest
      return (first ++ merged, own)
    else
      let key ← match k with
        | .scalar ['='] true => pure (.str ['='])
        | _ => k.toValue
      let key ← asKey key
      let value ← v.toValue
      let (merged, own) ← toPairs rest
      return (merged, (key, value) :: own)

def toMerged : Node → Except Error (List (Value × Value))
  | .scalar .. => .error .badMerge
  | .mapping entries => do
    let (merged, own) ← toPairs entries
    return merged ++ own
  | .sequence items => toMergedItems items

/-- The entries that a list of mappings contributes; later ones come first. -/
def toMergedItems : List Node → Except Error (List (Value × Value))
  | [] => .ok []
  | .mapping entries :: rest => do
    let (merged, own) ← toPairs entries
    return (← toMergedItems rest) ++ merged ++ own
  | _ :: _ => .error .badMerge

end

/-- The value that a text holds; a text without a document holds nothing. -/
def parse (t : Text) : Except Error Value :=
  if t.all isAllowed then do
    match ← Node.ofTokens (← Token.ofText (unifyBreaks t)) with
    | some root => root.toValue
    | none => return .null
  else .error .forbiddenCharacter

end Playground.Yaml
