import Playground.CommandLine.Basic

namespace Playground.CommandLine

/-- The number of an error of the system on opening a file. It is given with either sign. -/
def errorCode : IO.Error → Nat
  | .noFileOrDirectory _ code _ | .permissionDenied _ code _ | .inappropriateType _ code _ =>
    code.toInt32.toInt.natAbs
  | _ => 0

def openFile (name : String) : IO (Except OpenFault (List UInt8)) :=
  try
    return .ok (← IO.FS.readBinFile name).toList
  catch e =>
    match OpenFault.ofCode? (errorCode e) with
    | some fault => return .error fault
    | none => throw e

/-- What a call with some arguments sees: the files that it reads, and the input if it reads that. -/
def look (a : Arguments) : IO Surroundings := do
  let files ← a.files.mapM fun name => return (name, ← openFile (String.ofList name))
  let input ← if a.readsInput then (← IO.getStdin).readBinToEnd else pure .empty
  return { file := fun name => (files.lookup name).getD (.error .missing), input := input.toList }

def write (o : Outcome) : IO UInt32 := do
  let errors ← IO.getStderr
  for e in o.report.entries do errors.putStrLn (String.ofList e.line)
  for w in o.report.warnings do errors.putStrLn (String.ofList w.message)
  (← IO.getStdout).putStr (String.ofList o.output)
  return UInt32.ofNat o.exitCode

def call (words : List Text) : IO UInt32 := do
  let surroundings ← match Arguments.ofTexts? words with
    | some a => look a
    | none => pure { file := fun _ => .error .missing, input := [] }
  match perform words surroundings with
  | .ok outcome => write outcome
  | .error crash =>
    (← IO.getStderr).putStrLn (String.ofList crash.message)
    return 1

end Playground.CommandLine

def main (words : List String) : IO UInt32 := Playground.CommandLine.call (words.map String.toList)
