import Playground.Decimal.Reading

namespace Playground.CommandLine

/-- An option with its long name and, if it has one, its letter. -/
structure Opt where
  name : Text
  letter : Option Char
  takesValue : Bool
deriving Repr, DecidableEq

/-- What an argument is taken for. -/
inductive Word where
  | operand
  | named (o : Opt) (attached : Option Text)
  | letters (cs : List Char)
  | unknown

def divider : Text := "--".toList

/-- Whether an argument has the form of a negative number, which is never an option. -/
def isNegativeNumber : Text → Bool
  | '-' :: body =>
    let body := if body.getLast? == some '\n' then body.dropLast else body
    let isDigit (c : Char) := (Text.digitValue? c).isSome
    match body.dropWhile isDigit with
    | [] => !body.isEmpty
    | '.' :: fraction => !fraction.isEmpty && fraction.all isDigit
    | _ => false
  | _ => false

def cutAtEquals (t : Text) : Text × Option Text :=
  match t.dropWhile (· != '=') with
  | [] => (t, none)
  | _ :: attached => (t.takeWhile (· != '='), some attached)

/-- What an argument is taken for, given the options there are. -/
def Word.ofText (opts : List Opt) (t : Text) : Word :=
  let fallback := if isNegativeNumber t || t.contains ' ' then .operand else .unknown
  match t with
  | '-' :: '-' :: _ =>
    let (name, attached) := cutAtEquals t
    match opts.find? (·.name == name) with
    | some o => .named o attached
    | none =>
      match opts.filter fun o => o.name.startsWith name with
      | [o] => .named o attached
      | [] => fallback
      | _ => .unknown
  | '-' :: c :: more =>
    if opts.any (·.letter == some c) then .letters (c :: more) else fallback
  | _ => .operand

/-- A value for an option: the next argument, which must be an operand. -/
def takeValue (opts : List Opt) : List Text → Option (Text × List Text)
  | [] => none
  | w :: rest =>
    match Word.ofText opts w with
    | .operand => if w == divider then none else some (w, rest)
    | _ => none

/-- The options of a command in order, each with its value, and its operands, of which `room` are allowed.
There is no result for arguments that do not fit. The fuel bounds the number of arguments. -/
def collect (opts : List Opt) : (fuel room : Nat) → List Text → Option (List (Opt × Text) × List Text)
  | 0, _, _ => none
  | _, _, [] => some ([], [])
  | fuel + 1, room, w :: rest =>
    if w == divider then
      if rest.length == 1 && room == 1 then some ([], rest) else none
    else
      match Word.ofText opts w with
      | .operand =>
        if room == 0 then none
        else if rest == [divider] then some ([], [w])
        else if rest.head? == some divider then none
        else do
          let (options, operands) ← collect opts fuel (room - 1) rest
          return (options, w :: operands)
      | .named o (some attached) => do
        if !o.takesValue then failure
        let (options, operands) ← collect opts fuel room rest
        return ((o, attached) :: options, operands)
      | .named o none => do
        let (value, rest) ← if o.takesValue then takeValue opts rest else some ([], rest)
        let (options, operands) ← collect opts fuel room rest
        return ((o, value) :: options, operands)
      | .letters cs => do
        let found ← cs.mapM fun c => opts.find? fun o => o.letter == some c && !o.takesValue
        let (options, operands) ← collect opts fuel room rest
        return (found.map (·, []) ++ options, operands)
      | .unknown => none

inductive Format where
  | text
  | html
  | json
  | yaml
deriving Repr, DecidableEq

def Format.ofName? (t : Text) : Option Format :=
  [("text", Format.text), ("html", .html), ("json", .json), ("yaml", .yaml)].findSome? fun (name, f) =>
    if name.toList == t then some f else none

inductive Command where
  | run (file : Text) (format : Format)
  | transpile (file : Text)
  | examples (count : Int)
deriving Repr, DecidableEq

def Command.file? : Command → Option Text
  | .run file _ | .transpile file => some file
  | .examples _ => none

def inputName : Text := ['-']

structure Arguments where
  settings : Option Text
  verbose : Bool
  command : Command
deriving Repr, DecidableEq

def Arguments.files (a : Arguments) : List Text :=
  a.settings.toList ++ (a.command.file?.filter (· != inputName)).toList

def Arguments.readsInput (a : Arguments) : Bool := a.command.file? == some inputName

def settingsOpt : Opt := ⟨"--config".toList, none, true⟩

def verboseOpt : Opt := ⟨"--verbose".toList, some 'v', false⟩

def formatOpt : Opt := ⟨"--format".toList, none, true⟩

def countOpt : Opt := ⟨"--count".toList, none, true⟩

def Command.ofTexts? (name : Text) (words : List Text) : Option Command :=
  match String.ofList name with
  | "run" => do
    let (options, operands) ← collect [formatOpt] (words.length + 1) 1 words
    let formats ← options.mapM fun (_, value) => Format.ofName? value
    match operands with
    | [file] => return .run file (formats.getLast?.getD .text)
    | _ => none
  | "transpile" => do
    match ← collect [] (words.length + 1) 1 words with
    | (_, [file]) => return .transpile file
    | _ => none
  | "example" => do
    let (options, _) ← collect [countOpt] (words.length + 1) 0 words
    let counts ← options.mapM fun (_, value) => (Decimal.readInteger value).toOption
    return .examples (counts.getLast?.getD 1)
  | _ => none

/-- Reads the general options in front of the command, then the command. The fuel bounds the number of
arguments. -/
def Arguments.read (settings : Option Text) (verbose : Bool) : (fuel : Nat) → List Text → Option Arguments
  | 0, _ => none
  | _, [] => none
  | fuel + 1, w :: rest =>
    let opts := [settingsOpt, verboseOpt]
    if w == divider then none
    else
      match Word.ofText opts w with
      | .operand => do return { settings, verbose, command := ← Command.ofTexts? w rest }
      | .named o attached =>
        if o.takesValue then do
          let (value, rest) ← match attached with
            | some value => some (value, rest)
            | none => takeValue opts rest
          Arguments.read (some value) verbose fuel rest
        else if attached.isSome then none
        else Arguments.read settings true fuel rest
      | .letters cs => if cs.all (· == 'v') then Arguments.read settings true fuel rest else none
      | .unknown => none

/-- The arguments that some texts write, if they fit. An empty name of a settings file names none. -/
def Arguments.ofTexts? (words : List Text) : Option Arguments := do
  let a ← Arguments.read none false (words.length + 1) words
  return { a with settings := a.settings.filter (!·.isEmpty) }

end Playground.CommandLine
