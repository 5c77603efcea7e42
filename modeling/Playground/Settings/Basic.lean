import Playground.Example
import Playground.Pseudocode.Basic
import Playground.Value.Order

namespace Playground

/-- What happens when a run completes after a newer one has been scheduled. -/
inductive OverlapPolicy where
  /-- Every completion is shown, so the last one stays. -/
  | lastWriteWins
  /-- A completion is dropped if a newer run that was not cancelled has been scheduled. -/
  | latestOnly
deriving Repr, DecidableEq

namespace OverlapPolicy

def all : List OverlapPolicy := [lastWriteWins, latestOnly]

def name : OverlapPolicy → String
  | lastWriteWins => "last_write_wins"
  | latestOnly => "latest_only"

def ofName? (t : Text) : Option OverlapPolicy := all.find? fun p => p.name.toList == t

end OverlapPolicy

structure Settings where
  indentUnit : Text
  /-- How many seconds pass between a run action and its completion. -/
  runDelay : Float
  overlapPolicy : OverlapPolicy
  examples : List Text
  examples_ne_nil : examples ≠ []

namespace Settings

def standard : Settings where
  indentUnit := Pseudocode.defaultIndentUnit
  runDelay := 0.8
  overlapPolicy := .lastWriteWins
  examples := Example.all
  examples_ne_nil := Example.all_ne_nil

inductive Error where
  | notMapping (kind : Kind)
  | unknownKeys (keys : List Value)
  | badIndentUnit
  | badRunDelay
  | badOverlapPolicy
  | badExamples
  /-- The text of the settings is no document at all. -/
  | unreadable
  /-- A check could not be carried out on the value. -/
  | unchecked (fault : Fault)

def Error.message : Error → Text
  | notMapping k => ("Configuration must be a mapping, got " ++ k.name).toList
  | unknownKeys keys => "Unknown configuration keys: ".toList ++ (Value.list keys).display
  | badIndentUnit => "indent_unit must be a non-empty string of whitespace".toList
  | badRunDelay => "run_delay must be a non-negative number".toList
  | badOverlapPolicy =>
    "overlap_policy must be one of ".toList ++
      (Value.list (OverlapPolicy.all.map fun p => .str p.name.toList)).display
  | badExamples => "examples must be a non-empty list of strings".toList
  | unreadable => "Invalid YAML".toList
  | unchecked fault => fault.message

def keys : List Text :=
  ["indent_unit".toList, "run_delay".toList, "overlap_policy".toList, "examples".toList]

def isKnown : Value → Bool
  | .str k => keys.contains k
  | _ => false

/-- An indentation: a text of blanks, at least one. -/
def readIndentUnit : Value → Except Error Text
  | .str t => if t.isEmpty || !t.allBlank then .error .badIndentUnit else .ok t
  | _ => .error .badIndentUnit

/-- Whether a float is not below zero. That holds of NaN, too, which has no place in the order. -/
def isDelay (x : Float) : Bool := 0 ≤ x || x.isNaN

/-- A delay: a number that is not below zero. An integer has to be within the range of floats. -/
def readRunDelay : Value → Except Error Float
  | .int n =>
    let x := Decimal.toFloat (n < 0) n.natAbs 0
    if !isDelay x then .error .badRunDelay
    else if x == 1.0 / 0.0 then .error (.unchecked .integerTooLarge)
    else .ok x
  | .float x => if isDelay x then .ok x else .error .badRunDelay
  | _ => .error .badRunDelay

def readOverlapPolicy : Value → Except Error OverlapPolicy
  | .str t => match OverlapPolicy.ofName? t with
    | some p => .ok p
    | none => .error .badOverlapPolicy
  | _ => .error .badOverlapPolicy

/-- An example program without the line feeds at its end. -/
def readExample? : Value → Option Text
  | .str t => some (t.dropEndWhile (· == '\n'))
  | _ => none

/-- Examples: a list of texts, at least one. -/
def readExamples : Value → Except Error { examples : List Text // examples ≠ [] }
  | .list vs => match vs.mapM readExample? with
    | some (e :: rest) => .ok ⟨e :: rest, List.cons_ne_nil e rest⟩
    | _ => .error .badExamples
  | _ => .error .badExamples

def readField {α : Type} (entries : List (Value × Value)) (key : String) (default : α)
    (read : Value → Except Error α) : Except Error α :=
  match Value.field? key.toList entries with
  | none => .ok default
  | some v => read v

def ofEntries (entries : List (Value × Value)) : Except Error Settings := do
  match (entries.map (·.1)).filter (!isKnown ·) with
  | [] => pure ()
  | unknown => match Value.sortBy id unknown with
    | .ok sorted =>
      if (Value.list sorted).isDisplayable then throw (.unknownKeys sorted) else throw (.unchecked .tooLongToWrite)
    | .error fault => throw (.unchecked fault)
  let indentUnit ← readField entries "indent_unit" standard.indentUnit readIndentUnit
  let runDelay ← readField entries "run_delay" standard.runDelay readRunDelay
  let overlapPolicy ← readField entries "overlap_policy" standard.overlapPolicy readOverlapPolicy
  let examples ← readField entries "examples" ⟨standard.examples, standard.examples_ne_nil⟩ readExamples
  return { indentUnit, runDelay, overlapPolicy, examples := examples.1, examples_ne_nil := examples.2 }

def ofValue : Value → Except Error Settings
  | .map entries => ofEntries entries
  | v => .error (.notMapping v.kind)

end Settings

end Playground
