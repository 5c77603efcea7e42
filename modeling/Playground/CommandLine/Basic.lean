import Playground.CommandLine.Arguments
import Playground.Output.Panel
import Playground.Output.Terminal
import Playground.Saved.Document
import Playground.Saved.Export
import Playground.Session
import Playground.Settings.Document
import Playground.Text.Utf8

namespace Playground.CommandLine

inductive OpenFault where
  | missing
  | denied
  | notDirectory
  | directory
deriving Repr, DecidableEq

def OpenFault.code : OpenFault → Nat
  | missing => 2
  | denied => 13
  | notDirectory => 20
  | directory => 21

def OpenFault.ofCode? (n : Nat) : Option OpenFault :=
  [missing, denied, notDirectory, directory].find? fun f => f.code == n

def OpenFault.reason : OpenFault → String
  | missing => "No such file or directory"
  | denied => "Permission denied"
  | notDirectory => "Not a directory"
  | directory => "Is a directory"

def OpenFault.message (f : OpenFault) (name : Text) : Text :=
  "[Errno ".toList ++ Text.ofNat f.code ++ "] ".toList ++ f.reason.toList ++ ": ".toList ++ name.quoted

/-- The files that a call can see, and its input. -/
structure Surroundings where
  file : Text → Except OpenFault (List UInt8)
  input : List UInt8

structure Outcome where
  exitCode : Nat
  output : Text
  report : Journal.Report

/-- Why a call stops short. -/
inductive Crash where
  | undecodable (fault : Text.Utf8Fault)
  | unchecked (fault : Fault)

def Crash.message : Crash → Text
  | undecodable fault => fault.message
  | unchecked fault => fault.message

/-- The text of a file, in which every line ends with a line feed. -/
def decode (bytes : List UInt8) : Except Crash Text :=
  match Text.decodeUtf8 bytes with
  | .ok t => .ok (unify t)
  | .error fault => .error (.undecodable fault)
where
  unify : Text → Text
    | [] => []
    | '\r' :: '\n' :: rest => '\n' :: unify rest
    | c :: rest => (if c == '\r' then '\n' else c) :: unify rest

def Surroundings.read (s : Surroundings) (name : Text) : Except Crash (Except Text Text) :=
  match s.file name with
  | .error fault => .ok (.error (fault.message name))
  | .ok bytes => do return .ok (← decode bytes)

/-- The text of a program; a dash names the input. -/
def Surroundings.readProgram (s : Surroundings) (name : Text) : Except Crash (Except Text Text) :=
  if name == inputName then do return .ok (← decode s.input) else s.read name

def Surroundings.readSettings (s : Surroundings) : Option Text → Except Crash (Except Text Settings)
  | none => .ok (.ok .standard)
  | some name => do
    match ← s.read name with
    | .error message => return .error message
    | .ok t => match Settings.ofText t with
      | .ok settings => return .ok settings
      | .error (.unchecked fault) => throw (.unchecked fault)
      | .error e => return .error e.message

def printed (t : Text) : Text := t ++ ['\n']

def showRun (format : Format) (r : Run) : Except Fault Text :=
  match format with
  | .text =>
    .ok (printed r.program.text ++ printed (List.replicate 40 '-') ++ printed (Terminal.ofRecords r.records))
  | .html => .ok (printed (Panel.ofRecords r.records))
  | .json => do return printed (← (Saved.Run.ofRun r).toJson)
  | .yaml => .ok (Saved.document r)

/-- The next examples of a session, with an empty line between neighbours, and what loading them reports. -/
def showExamples : (count : Nat) → Session → Text × List Journal.Entry
  | 0, _ => ([], [])
  | 1, s => (printed s.current, [s.loading])
  | count + 2, s =>
    let (text, entries) := showExamples (count + 1) s.advance
    (printed s.current ++ printed [] ++ text, s.loading :: entries)

def stop (exitCode : Nat) (entry : Journal.Entry) : Outcome := ⟨exitCode, [], ⟨[entry], []⟩⟩

/-- Works on the program in a file: what is printed of its run, and what the run reports. -/
def withProgram (s : Surroundings) (session : Session) (file : Text) (show_ : Run → Except Fault Text) :
    Except Crash Outcome := do
  match ← s.readProgram file with
  | .error message => return stop 1 (.programNotRead message)
  | .ok source =>
    let r := session.run source
    match show_ r with
    | .ok output => return ⟨0, output, .ofRun r⟩
    | .error fault => throw (.unchecked fault)

def Command.perform (s : Surroundings) (session : Session) : Command → Except Crash Outcome
  | .run file format => withProgram s session file (showRun format)
  | .transpile file => withProgram s session file fun r => .ok (printed r.program.text)
  | .examples count =>
    let (output, entries) := showExamples count.toNat session
    .ok ⟨0, output, ⟨entries, []⟩⟩

/-- Whether an entry is written out: errors always, others only if asked for. -/
def isShown (verbose : Bool) (e : Journal.Entry) : Bool := verbose || e.level == .error

def Arguments.perform (a : Arguments) (s : Surroundings) : Except Crash Outcome := do
  match ← s.readSettings a.settings with
  | .error reason => return stop 2 (.settingsNotLoaded reason)
  | .ok settings =>
    let outcome ← a.command.perform s (.start settings)
    let entries := outcome.report.entries.filter (isShown a.verbose)
    return { outcome with report := ⟨entries, outcome.report.warnings⟩ }

/-- A call. Arguments that do not fit only give an exit code. -/
def perform (words : List Text) (s : Surroundings) : Except Crash Outcome :=
  match Arguments.ofTexts? words with
  | none => .ok ⟨2, [], {}⟩
  | some a => a.perform s

end Playground.CommandLine
