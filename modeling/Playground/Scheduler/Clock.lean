import Playground.Scheduler.Basic
import Playground.Session

namespace Playground

/-- When the run of a generation is due at one of the schedulers. -/
structure Timer where
  due : Int
  scheduler : Nat
  generation : Nat
deriving Repr, DecidableEq

/-- A session with its schedulers, their renderer, the shared display, the time, the timers in the order in
which they were set, and for every schedule action so far the run that it issued, if any. -/
structure Studio (σ : Type) where
  session : Session
  renderer : Renderer σ
  schedulers : List (Scheduler σ)
  display : Display := {}
  now : Int := 0
  timers : List Timer := []
  issued : List (Option (Nat × Nat)) := []

inductive ScheduleError where
  | renderer (message : Text)
  | delay (fault : Fault)

namespace Studio

variable {σ : Type}

def start (session : Session) (renderer : Renderer σ) (memory : σ) (count : Nat) : Studio σ :=
  { session, renderer, schedulers := List.replicate count { memory } }

/-- A delay in seconds as whole microseconds, a half rounded to the even one. -/
def microseconds (delay : Float) : Except Fault Int :=
  match Decimal.Parts.ofFloat (delay * 1e6) with
  | .nan => .error .nanToInteger
  | .infinite _ => .error .infiniteToInteger
  | .finite negative b => .ok (if negative then -(b.roundTimes 1 : Int) else b.roundTimes 1)

/-- Lets a scheduler work on the shared display. A scheduler that does not exist does nothing. -/
def work {α : Type} (index : Nat) (default : α) (act : Scheduler σ → Scheduler σ × α) (s : Studio σ) :
    Studio σ × α :=
  match s.schedulers[index]? with
  | none => (s, default)
  | some scheduler =>
    let (scheduler, a) := act { scheduler with display := s.display }
    ({ s with schedulers := s.schedulers.set index scheduler, display := scheduler.display }, a)

def load (s : Studio σ) : Text × Studio σ × Journal.Report :=
  (s.session.current, { s with session := s.session.advance }, ⟨[s.session.loading], []⟩)

/-- Schedules a run, after the delay of the settings if none is given. -/
def schedule (index : Nat) (source : Text) (delay : Option Float) (s : Studio σ) :
    Except ScheduleError (Option Nat) × Studio σ × Journal.Report :=
  let delay := delay.getD s.session.settings.runDelay
  let (s, outcome, report) := s.work index (.nothing, {}) fun scheduler =>
    let (outcome, scheduler, report) := scheduler.schedule s.renderer source
    (scheduler, outcome, report)
  let unissued := { s with issued := s.issued ++ [none] }
  match outcome with
  | .nothing | .failed => (.ok none, unissued, report)
  | .refused message => (.error (.renderer message), unissued, report)
  | .issued generation =>
    match microseconds delay with
    | .error fault => (.error (.delay fault), unissued, report)
    | .ok span =>
      (.ok (some generation),
        { s with
          issued := s.issued ++ [some (index, generation)]
          timers := s.timers ++ [⟨s.now + span, index, generation⟩] },
        report ++ ⟨[.runScheduled generation delay], []⟩)

/-- Cancels the run that a schedule action issued; tells whether it was still waiting. -/
def cancel (action : Nat) (s : Studio σ) : Option Bool × Studio σ × Journal.Report :=
  match s.issued[action]?.join with
  | none => (none, s, {})
  | some (index, generation) =>
    let (s, cancelled, report) := s.work index (false, {}) fun scheduler =>
      let (cancelled, scheduler, report) := scheduler.cancel generation
      (scheduler, cancelled, report)
    let stays (t : Timer) : Bool := !(t.scheduler == index && t.generation == generation)
    (some cancelled, { s with timers := s.timers.filter stays }, report)

def phase? (index generation : Nat) (s : Studio σ) : Option Phase := do
  let scheduler ← s.schedulers[index]?
  let ticket ← scheduler.tickets.find? (·.generation == generation)
  return ticket.phase

/-- The timer that is due first, the one set first if there are several. -/
def nextTimer? (s : Studio σ) : Option Timer :=
  s.timers.foldl (fun best t => match best with
    | none => some t
    | some b => if t.due < b.due then some t else best) none

/-- Fires a timer. The clock goes on to the time at which it is due, unless that has passed. -/
def fire (t : Timer) (s : Studio σ) : Studio σ × Journal.Report :=
  let s := { s with timers := s.timers.filter (· != t), now := max s.now t.due }
  s.work t.scheduler {} fun scheduler =>
    scheduler.fire s.session.settings s.renderer t.generation

/-- Fires timers one after the other as long as `more` holds of the studio and the first one due; the fuel
bounds their number. -/
def fireWhile (more : Studio σ → Timer → Bool) : Nat → Studio σ → Studio σ × Journal.Report
  | 0, s => (s, {})
  | fuel + 1, s =>
    match s.nextTimer? with
    | none => (s, {})
    | some t =>
      if more s t then
        let (s, report) := s.fire t
        let (s, others) := s.fireWhile more fuel
        (s, report ++ others)
      else (s, {})

/-- Lets a span of time pass, in microseconds. -/
def advance (span : Int) (s : Studio σ) : Studio σ × Journal.Report :=
  let target := s.now + span
  let (s, report) := s.fireWhile (fun _ t => t.due ≤ target) s.timers.length
  ({ s with now := target }, report)

/-- Lets time pass until no run of a scheduler waits. -/
def waitIdle (index : Nat) (s : Studio σ) : Studio σ × Journal.Report :=
  s.fireWhile (fun s _ => s.timers.any (·.scheduler == index)) s.timers.length

end Studio

end Playground
