import Playground.Journal
import Playground.Settings.Basic

namespace Playground

/-- A session with the position of its next example. Nothing but loading an example changes it. -/
structure Session where
  settings : Settings
  next : Fin settings.examples.length

namespace Session

theorem length_examples_pos (s : Settings) : 0 < s.examples.length :=
  List.length_pos_iff.2 s.examples_ne_nil

def start (settings : Settings) : Session :=
  ⟨settings, ⟨0, length_examples_pos settings⟩⟩

def run (s : Session) (source : Text) : Run := .ofSource s.settings.indentUnit source

def current (s : Session) : Text := s.settings.examples[s.next]

/-- The session after its next example has been loaded; after the last one the first comes again. -/
def advance (s : Session) : Session :=
  { s with next := ⟨(s.next + 1) % s.settings.examples.length,
      Nat.mod_lt _ (length_examples_pos s.settings)⟩ }

def loading (s : Session) : Journal.Entry := .exampleLoaded (s.next + 1) s.settings.examples.length

/-- What is shown when the output is cleared. The session itself stays as it is. -/
def cleared : List Record := [.ofNotice .cleared]

end Session

end Playground
