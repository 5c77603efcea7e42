import Playground.Saved.Basic

namespace Playground.Saved

inductive Error where
  /-- A record lacks a part, or a part has the wrong kind or content. -/
  | badRecord (value : Value) (fault : Fault)
  | badLine (value : Value) (fault : Fault)
  | noRecords
  /-- The value has not the form that the reader takes for granted. -/
  | unchecked (fault : Fault)

def Error.message : Error → Text
  | badRecord v fault => "Invalid output record ".toList ++ v.display ++ ": ".toList ++ fault.message
  | badLine v fault => "Invalid transpiled line ".toList ++ v.display ++ ": ".toList ++ fault.message
  | noRecords => "Simulation result must contain at least one record".toList
  | unchecked fault => fault.message

/-- The error that names the value in which a fault was found. It displays the value, which can be a fault itself. -/
def Error.naming (error : Value → Fault → Error) (v : Value) (fault : Fault) : Error :=
  if v.isDisplayable then error v fault else .unchecked .tooLongToWrite

/-- Whether the reader of a part foresees a fault: not a missing operation, nor a number out of range. -/
def isForeseen (fault : Fault) : Bool :=
  match fault.sort with
  | .absent | .kind | .content => true
  | .operation | .range => false

/-- Names the value in which a fault was found. A fault that is not foreseen passes as it is. -/
def reportAs {α : Type} (error : Value → Fault → Error) (v : Value) : Except Fault α → Except Error α
  | .ok a => .ok a
  | .error fault => .error (if isForeseen fault then .naming error v fault else .unchecked fault)

/-- The result of a reading whose faults are not foreseen. -/
def unforeseen {α : Type} : Except Fault α → Except Error α
  | .ok a => .ok a
  | .error fault => .error (.unchecked fault)

def readName {α : Type} (ofName? : Text → Option α) (family : String) (v : Value) : Except Fault α :=
  match v with
  | .str t => match ofName? t with
    | some a => .ok a
    | none => .error (.notMember v family)
  | _ => .error (.notMember v family)

def readStyle (v : Value) : Except Fault Style := readName Style.ofName? "OutputStyle" v

def readCategory (v : Value) : Except Fault Category := readName Category.ofName? "Category" v

def Record.ofValue (v : Value) : Except Error Record :=
  reportAs .badRecord v do
    let style ← readStyle (← v.lookup "style".toList)
    let text ← v.lookup "text".toList
    return { style, text }

def Line.ofValue (v : Value) : Except Error Line :=
  reportAs .badLine v do
    let category ← readCategory (← v.lookup "category".toList)
    let depth ← (← v.lookup "depth".toList).toInteger
    let text ← v.lookupD "text".toList .null
    return { category, depth, text }

/-- The saved records that a value describes: the items under its key `records`, at least one. -/
def readRecords (v : Value) : Except Error (List Record) := do
  let records := match v with
    | .map entries => (Value.field? "records".toList entries).getD .null
    | _ => .null
  if records.isSome then (← unforeseen records.items).mapM Record.ofValue
  else throw .noRecords

def Program.ofValue (v : Value) : Except Error Program := do
  let lines ← (← unforeseen (do (← v.lookupD "lines".toList (.list [])).items)).mapM Line.ofValue
  let finalDepth ← unforeseen (v.lookupD "final_depth".toList (.int 0))
  return { lines, finalDepth }

/-- The saved run that a value describes. A record needs a style and a text, a line a category and a depth; what else
is missing gets a default. -/
def Run.ofValue (v : Value) : Except Error Run := do
  let source ← unforeseen (v.lookupD "source".toList (.str []))
  let program ← Program.ofValue (← unforeseen (v.lookupD "transpiled".toList (.map [])))
  let records ← readRecords (← unforeseen (v.lookupD "simulation".toList (.map [])))
  return { source, program, records }

end Playground.Saved
