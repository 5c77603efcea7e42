import Playground.Journal
import Playground.Output.Panel
import Playground.Scheduler.Control
import Playground.Scheduler.Display
import Playground.Settings.Basic

namespace Playground

/-- Turns records into markup, or fails. It may remember things from call to call. A failure is the message that it is
shown with, so one that cannot even say its message is outside. -/
structure Renderer (σ : Type) where
  render : List Record → σ → Except Text Text × σ

def Renderer.panel : Renderer Unit where
  render records _ := (.ok (Panel.ofRecords records), ())

inductive Phase where
  | waiting
  | fired
  | cancelled
deriving Repr, DecidableEq

/-- A scheduled run. Generations count the runs from one. -/
structure Ticket where
  generation : Nat
  source : Text
  phase : Phase
deriving Repr, DecidableEq

/-- The state of a scheduler: its run button, the generation of the newest run, all tickets issued so far, what
its renderer remembers, and the display it writes to. -/
structure Scheduler (σ : Type) where
  control : Control := {}
  generation : Nat := 0
  tickets : List Ticket := []
  memory : σ
  display : Display := {}

inductive Scheduled where
  /-- There was nothing to run, and a notice says so. -/
  | nothing
  /-- There was nothing to run, and the renderer failed on the notice that says so. -/
  | refused (message : Text)
  /-- The renderer failed on the notice that a run has started, and the failure is shown. -/
  | failed
  | issued (generation : Nat)
deriving Repr, DecidableEq

namespace Scheduler

variable {σ : Type}

/-- Renders records and shows them. If the renderer fails, the display stays as it is and the failure's message
is given. -/
def show? (renderer : Renderer σ) (records : List Record) (pseudocode : Text) (generation : Nat)
    (s : Scheduler σ) : Option Text × Scheduler σ :=
  match renderer.render records s.memory with
  | (.ok markup, memory) =>
    (none, { s with memory, display := s.display.write records markup pseudocode generation })
  | (.error message, memory) => (some message, { s with memory })

/-- Shows a failure. If the renderer fails on that too, the panel's own markup is used. -/
def showFailure (renderer : Renderer σ) (message : Text) (generation : Nat) (s : Scheduler σ) :
    Scheduler σ × List Journal.Entry :=
  let record := Record.failure message
  match renderer.render [record] s.memory with
  | (.ok markup, memory) =>
    ({ s with memory, display := s.display.write [record] markup [] generation }, [])
  | (.error _, memory) =>
    ({ s with memory, display := s.display.write [record] (Panel.ofRecord record) [] generation },
      [.errorNotRendered])

def isCancelled (s : Scheduler σ) (generation : Nat) : Bool :=
  s.tickets.any fun t => t.generation == generation && t.phase == .cancelled

/-- The greatest generation, counted down from a given one, whose run has not been cancelled. -/
def newestFrom (s : Scheduler σ) : Nat → Nat
  | 0 => 0
  | g + 1 => if s.isCancelled (g + 1) then s.newestFrom g else g + 1

/-- The generation of the newest run that has not been cancelled, or zero. -/
def newest (s : Scheduler σ) : Nat := s.newestFrom s.generation

/-- Schedules a run of a program text, unless it is blank. -/
def schedule (renderer : Renderer σ) (source : Text) (s : Scheduler σ) :
    Scheduled × Scheduler σ × Journal.Report :=
  if source.allBlank then
    match s.show? renderer [.ofNotice .noCode] [] 0 with
    | (none, s) => (.nothing, s, {})
    | (some message, s) => (.refused message, s, {})
  else
    let generation := s.generation + 1
    match s.show? renderer [.ofNotice .running] [] generation with
    | (some message, s) =>
      let (s, entries) := s.showFailure renderer message generation
      (.failed, s, ⟨.runNotScheduled generation :: entries, []⟩)
    | (none, s) =>
      (.issued generation,
        { s with
          generation
          control := s.control.start
          tickets := s.tickets ++ [⟨generation, source, .waiting⟩] }, {})

def waiting? (s : Scheduler σ) (generation : Nat) : Option Ticket :=
  s.tickets.find? fun t => t.generation == generation && t.phase == .waiting

def mark (generation : Nat) (phase : Phase) (s : Scheduler σ) : Scheduler σ :=
  { s with tickets := s.tickets.map fun t => if t.generation == generation then { t with phase } else t }

/-- Whether a completion is dropped because a newer run counts. -/
def isSuperseded (settings : Settings) (s : Scheduler σ) (generation : Nat) : Bool :=
  settings.overlapPolicy == .latestOnly && generation < s.newest

/-- Completes the run of a ticket: drops it, or shows its output or its failure. -/
def complete (settings : Settings) (renderer : Renderer σ) (t : Ticket) (s : Scheduler σ) :
    Scheduler σ × Journal.Report :=
  if s.isSuperseded settings t.generation then
    ({ s with control := s.control.release }, ⟨[.runSuperseded t.generation s.newest], []⟩)
  else
    let run := Run.ofSource settings.indentUnit t.source
    match s.show? renderer run.records run.program.text t.generation with
    | (none, s) =>
      ({ s with control := s.control.complete },
        .ofRun run ++ ⟨[.runComplete t.generation run.records.length], []⟩)
    | (some message, s) =>
      let (s, entries) := s.showFailure renderer message t.generation
      ({ s with control := s.control.release }, .ofRun run ++ ⟨.runFailed t.generation :: entries, []⟩)

/-- Fires the run of a generation. Nothing happens unless it waits. -/
def fire (settings : Settings) (renderer : Renderer σ) (generation : Nat) (s : Scheduler σ) :
    Scheduler σ × Journal.Report :=
  match s.waiting? generation with
  | none => (s, {})
  | some t =>
    let (s, report) := s.complete settings renderer t
    (s.mark generation .fired, report)

/-- Cancels the run of a generation; tells whether it was still waiting. -/
def cancel (generation : Nat) (s : Scheduler σ) : Bool × Scheduler σ × Journal.Report :=
  match s.waiting? generation with
  | none => (false, s, {})
  | some _ =>
    let s := s.mark generation .cancelled
    (true, { s with control := s.control.release }, ⟨[.runCancelled generation], []⟩)

end Scheduler

end Playground
