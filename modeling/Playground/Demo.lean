import Playground.Output.Terminal
import Playground.Scheduler.Basic
import Playground.Session
import Playground.Value.Display

namespace Playground.Demo

def rule (c : Char) : Text := List.replicate 80 c

def setOff (t : Text) : List Text := t.lines.map ("   ".toList ++ ·)

def onExample (s : Session) : List Text :=
  let run := s.run s.current
  [[], "EXAMPLE ".toList ++ Text.ofNat (s.next + 1), rule '-'] ++ setOff run.source ++
    [[], "   Transpiled:".toList] ++ setOff run.program.text ++
    [[], "   Output:".toList] ++ setOff (Terminal.ofRecords run.records) ++
    [[], "   HTML: ".toList ++ Panel.ofRecords run.records]

/-- The lines on the next `count` examples, and the session after them. -/
def onExamples : (count : Nat) → Session → List Text × Session
  | 0, s => ([], s)
  | count + 1, s =>
    let (others, last) := onExamples count s.advance
    (onExample s ++ others, last)

/-- The lines on a deferred run of the next example: the display before and after its completion, and the
states of the run button. -/
def onDeferredRun (s : Session) : List Text :=
  let (_, running, _) := ({ memory := () } : Scheduler Unit).schedule .panel s.current
  let (complete, _) := running.fire s.settings .panel running.generation
  let states := complete.control.history.map fun state => Value.str state.name.toList
  ["   While running: ".toList ++ running.display.markup,
    "   After delay:   ".toList ++ complete.display.markup,
    "   States: ".toList ++ (Value.list states).display]

def pageLines (s : Session) : List Text :=
  let (examples, s) := onExamples s.settings.examples.length s
  [rule '=', "PLAYGROUND DEMO: VibeScript → Pseudocode → Output".toList, rule '='] ++ examples ++
    [[], rule '=', "DEFERRED RUN".toList] ++ onDeferredRun s ++ [rule '=']

def page : Text := (pageLines (.start .standard)).flatMap (· ++ ['\n'])

end Playground.Demo
