import Playground.Decimal.Layout
import Playground.Run
import Playground.Text.Quoted

namespace Playground.Journal

inductive Level where
  | debug
  | info
  | error
deriving Repr, DecidableEq

def Level.name : Level → String
  | .debug => "DEBUG"
  | .info => "INFO"
  | .error => "ERROR"

/-- What can be reported. -/
inductive Entry where
  | unclosedBlocks (count : Nat)
  | noLiteral (argument : Text)
  /-- An example has been loaded; positions count from one. -/
  | exampleLoaded (position total : Nat)
  | runScheduled (generation : Nat) (delay : Float)
  | runSuperseded (generation newer : Nat)
  | runComplete (generation records : Nat)
  | runCancelled (generation : Nat)
  | runFailed (generation : Nat)
  /-- A run could not show that it is running. -/
  | runNotScheduled (generation : Nat)
  | errorNotRendered
  | settingsNotLoaded (reason : Text)
  | programNotRead (reason : Text)

namespace Entry

def level : Entry → Level
  | unclosedBlocks _ | noLiteral _ | exampleLoaded .. => .debug
  | runScheduled .. | runSuperseded .. | runComplete .. | runCancelled _ => .info
  | _ => .error

def reporter : Entry → String
  | unclosedBlocks _ => "vibescript.transpiler"
  | noLiteral _ => "vibescript.simulator"
  | exampleLoaded .. => "vibescript.session"
  | settingsNotLoaded _ | programNotRead _ => "vibescript.cli"
  | _ => "vibescript.scheduler"

def message : Entry → Text
  | unclosedBlocks count => "Source ended with ".toList ++ Text.ofNat count ++ " unclosed block(s)".toList
  | noLiteral argument => "No literal in print argument: ".toList ++ argument.quoted
  | exampleLoaded position total =>
    "Loaded example ".toList ++ Text.ofNat position ++ " of ".toList ++ Text.ofNat total
  | runScheduled g delay => named g ++ " scheduled in ".toList ++ Decimal.twoPlaces delay ++ ['s']
  | runSuperseded g newer => named g ++ " superseded by run ".toList ++ Text.ofNat newer ++ ", dropped".toList
  | runComplete g records => named g ++ " complete: ".toList ++ Text.ofNat records ++ " record(s)".toList
  | runCancelled g => named g ++ " cancelled".toList
  | runFailed g => named g ++ " failed".toList
  | runNotScheduled g => named g ++ " failed before scheduling".toList
  | errorNotRendered => "Renderer failed on error record".toList
  | settingsNotLoaded reason => "Could not load configuration: ".toList ++ reason
  | programNotRead reason => "Could not read program: ".toList ++ reason
where
  named (generation : Nat) : Text := "Run ".toList ++ Text.ofNat generation

def line (e : Entry) : Text :=
  (e.level.name ++ " " ++ e.reporter ++ ": ").toList ++ e.message

end Entry

/-- What a piece of work reports: journal entries, and warnings about the program. -/
structure Report where
  entries : List Entry := []
  warnings : List Warning := []

instance : Append Report := ⟨fun a b => ⟨a.entries ++ b.entries, a.warnings ++ b.warnings⟩⟩

/-- What running a program text reports. The blocks left open come first, then the print statements without
a literal. -/
def Report.ofRun (r : Run) : Report where
  entries :=
    (if r.program.finalDepth == 0 then [] else [.unclosedBlocks r.program.finalDepth]) ++
      (Simulation.unprinted r.source).map .noLiteral
  warnings := Pseudocode.warnings r.source

end Playground.Journal
