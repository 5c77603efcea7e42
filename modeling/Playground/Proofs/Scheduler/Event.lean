import Playground.Scheduler.Basic

namespace Playground.Scheduler

/-- What can happen to a scheduler. -/
inductive Event where
  | schedule (source : Text)
  | fire (generation : Nat)
  | cancel (generation : Nat)
deriving Repr, DecidableEq

/-- What an event comes to for the one who causes it. -/
inductive Answer where
  /-- A ticket of that generation, or none. -/
  | ticket (generation : Option Nat)
  /-- The failure of the renderer comes through. -/
  | raised (message : Text)
  /-- The run was waiting and has ended. -/
  | ended
  /-- No run of that generation was waiting. -/
  | stale
deriving Repr, DecidableEq

structure Moment where
  event : Event
  answer : Answer
deriving Repr, DecidableEq

namespace Moment

/-- The generation of the ticket that a moment issues. -/
def issued? : Moment → Option Nat
  | ⟨.schedule _, .ticket generation⟩ => generation
  | _ => none

/-- The generation of the run that a moment ends, whether it fires or is cancelled. -/
def ended? : Moment → Option Nat
  | ⟨.fire generation, .ended⟩ => some generation
  | ⟨.cancel generation, .ended⟩ => some generation
  | _ => none

end Moment

variable {σ : Type}

/-- One event. A timer that goes off for a run that waits no longer does nothing. -/
def step (settings : Settings) (renderer : Renderer σ) (s : Scheduler σ) : Event → Answer × Scheduler σ
  | .schedule source =>
    match s.schedule renderer source with
    | (.issued generation, s', _) => (.ticket (some generation), s')
    | (.refused message, s', _) => (.raised message, s')
    | (.nothing, s', _) => (.ticket none, s')
    | (.failed, s', _) => (.ticket none, s')
  | .fire generation =>
    (if (s.waiting? generation).isSome then .ended else .stale, (s.fire settings renderer generation).1)
  | .cancel generation =>
    (if (s.cancel generation).1 then .ended else .stale, (s.cancel generation).2.1)

def start (memory : σ) : Scheduler σ := { memory }

/-- The state after some events. -/
def after (settings : Settings) (renderer : Renderer σ) (s : Scheduler σ) (es : List Event) : Scheduler σ :=
  es.foldl (fun s e => (s.step settings renderer e).2) s

/-- Some events with their answers, in order. -/
def moments (settings : Settings) (renderer : Renderer σ) (s : Scheduler σ) : List Event → List Moment
  | [] => []
  | e :: rest =>
    ⟨e, (s.step settings renderer e).1⟩ :: (s.step settings renderer e).2.moments settings renderer rest

/-- Some events in order, each with the state that it meets. -/
def occasions (settings : Settings) (renderer : Renderer σ) (s : Scheduler σ) :
    List Event → List (Scheduler σ × Event)
  | [] => []
  | e :: rest => (s, e) :: (s.step settings renderer e).2.occasions settings renderer rest

@[simp] theorem after_nil {settings : Settings} {renderer : Renderer σ} {s : Scheduler σ} :
    s.after settings renderer [] = s := rfl

@[simp] theorem after_concat {settings : Settings} {renderer : Renderer σ} {s : Scheduler σ}
    (es : List Event) (e : Event) :
    s.after settings renderer (es ++ [e]) = ((s.after settings renderer es).step settings renderer e).2 := by
  simp only [after, List.foldl_append, List.foldl_cons, List.foldl_nil]

@[simp] theorem moments_concat {settings : Settings} {renderer : Renderer σ} {s : Scheduler σ}
    (es : List Event) (e : Event) :
    s.moments settings renderer (es ++ [e]) = s.moments settings renderer es ++
      [⟨e, ((s.after settings renderer es).step settings renderer e).1⟩] := by
  induction es generalizing s with
  | nil => rfl
  | cons first rest ih =>
    simp only [List.cons_append, moments, ih]
    rfl

@[simp] theorem occasions_concat {settings : Settings} {renderer : Renderer σ} {s : Scheduler σ}
    (es : List Event) (e : Event) :
    s.occasions settings renderer (es ++ [e]) =
      s.occasions settings renderer es ++ [(s.after settings renderer es, e)] := by
  induction es generalizing s with
  | nil => rfl
  | cons first rest ih =>
    simp only [List.cons_append, occasions, ih]
    rfl

/-- How a failure gets its markup: from the renderer, or from the panel if the renderer fails on it too. -/
inductive FailureMarkup (renderer : Renderer σ) (record : Record) (before : σ) : Text → σ → Prop
  | rendered {markup : Text} {memory : σ} :
      renderer.render [record] before = (.ok markup, memory) → FailureMarkup renderer record before markup memory
  | panel {message : Text} {memory : σ} :
      renderer.render [record] before = (.error message, memory) →
      FailureMarkup renderer record before (Panel.ofRecord record) memory

theorem showFailure_eq (renderer : Renderer σ) (message : Text) (generation : Nat) (s : Scheduler σ) :
    ∃ markup memory, FailureMarkup renderer (.failure message) s.memory markup memory ∧
      (s.showFailure renderer message generation).1 =
        { s with memory, display := s.display.write [.failure message] markup [] generation } := by
  unfold showFailure
  rcases shown : renderer.render [.failure message] s.memory with ⟨markup | again, memory⟩
  · exact ⟨_, memory, .panel shown, by simp [shown]⟩
  · exact ⟨_, memory, .rendered shown, by simp [shown]⟩

/-- Everything that one event can do, with its answer and the state after it. -/
inductive Step (settings : Settings) (renderer : Renderer σ) (s : Scheduler σ) :
    Event → Answer → Scheduler σ → Prop
  | noticed {source markup : Text} {memory : σ} :
      source.allBlank = true → renderer.render [.ofNotice .noCode] s.memory = (.ok markup, memory) →
      Step settings renderer s (.schedule source) (.ticket none)
        { s with memory, display := s.display.write [.ofNotice .noCode] markup [] 0 }
  | refused {source message : Text} {memory : σ} :
      source.allBlank = true → renderer.render [.ofNotice .noCode] s.memory = (.error message, memory) →
      Step settings renderer s (.schedule source) (.raised message) { s with memory }
  | unscheduled {source message markup : Text} {between memory : σ} :
      source.allBlank = false → renderer.render [.ofNotice .running] s.memory = (.error message, between) →
      FailureMarkup renderer (.failure message) between markup memory →
      Step settings renderer s (.schedule source) (.ticket none)
        { s with memory, display := s.display.write [.failure message] markup [] (s.generation + 1) }
  | issued {source markup : Text} {memory : σ} :
      source.allBlank = false → renderer.render [.ofNotice .running] s.memory = (.ok markup, memory) →
      Step settings renderer s (.schedule source) (.ticket (some (s.generation + 1)))
        { s with
          memory
          display := s.display.write [.ofNotice .running] markup [] (s.generation + 1)
          generation := s.generation + 1
          control := s.control.start
          tickets := s.tickets ++ [⟨s.generation + 1, source, .waiting⟩] }
  | late {generation : Nat} :
      s.waiting? generation = none → Step settings renderer s (.fire generation) .stale s
  | dropped {generation : Nat} {t : Ticket} :
      s.waiting? generation = some t → s.isSuperseded settings generation = true →
      Step settings renderer s (.fire generation) .ended
        ({ s with control := s.control.release }.mark generation .fired)
  | completed {generation : Nat} {t : Ticket} {markup : Text} {memory : σ} :
      s.waiting? generation = some t → s.isSuperseded settings generation = false →
      renderer.render (Simulation.output t.source) s.memory = (.ok markup, memory) →
      Step settings renderer s (.fire generation) .ended
        ({ s with
          memory
          display := s.display.write (Simulation.output t.source) markup
            (Pseudocode.Program.ofSource settings.indentUnit t.source).text generation
          control := s.control.complete }.mark generation .fired)
  | failed {generation : Nat} {t : Ticket} {message markup : Text} {between memory : σ} :
      s.waiting? generation = some t → s.isSuperseded settings generation = false →
      renderer.render (Simulation.output t.source) s.memory = (.error message, between) →
      FailureMarkup renderer (.failure message) between markup memory →
      Step settings renderer s (.fire generation) .ended
        ({ s with
          memory
          display := s.display.write [.failure message] markup [] generation
          control := s.control.release }.mark generation .fired)
  | revoked {generation : Nat} {t : Ticket} :
      s.waiting? generation = some t →
      Step settings renderer s (.cancel generation) .ended
        ({ s with control := s.control.release }.mark generation .cancelled)
  | gone {generation : Nat} :
      s.waiting? generation = none → Step settings renderer s (.cancel generation) .stale s

theorem generation_of_waiting? {s : Scheduler σ} {generation : Nat} {t : Ticket}
    (found : s.waiting? generation = some t) : t.generation = generation ∧ t.phase = .waiting := by
  have holds := List.find?_some found
  simpa only [Bool.and_eq_true, beq_iff_eq] using holds

theorem step_schedule (settings : Settings) (renderer : Renderer σ) (s : Scheduler σ) (source : Text) :
    Step settings renderer s (.schedule source) (s.step settings renderer (.schedule source)).1
      (s.step settings renderer (.schedule source)).2 := by
  cases blank : source.allBlank with
  | true =>
    rcases shown : renderer.render [.ofNotice .noCode] s.memory with ⟨message | markup, memory⟩
    · simpa [step, schedule, show?, blank, shown] using Step.refused blank shown
    · simpa [step, schedule, show?, blank, shown] using Step.noticed blank shown
  | false =>
    rcases shown : renderer.render [.ofNotice .running] s.memory with ⟨message | markup, memory⟩
    · obtain ⟨markup, final, recovered, state⟩ :=
        showFailure_eq renderer message (s.generation + 1) { s with memory }
      simpa [step, schedule, show?, blank, shown, state] using Step.unscheduled blank shown recovered
    · simpa [step, schedule, show?, blank, shown] using Step.issued blank shown

theorem step_fire (settings : Settings) (renderer : Renderer σ) (s : Scheduler σ) (generation : Nat) :
    Step settings renderer s (.fire generation) (s.step settings renderer (.fire generation)).1
      (s.step settings renderer (.fire generation)).2 := by
  cases found : s.waiting? generation with
  | none => simpa [step, fire, found] using Step.late found
  | some t =>
    have same := (generation_of_waiting? found).1
    cases superseded : s.isSuperseded settings generation with
    | true => simpa [step, fire, found, complete, same, superseded] using Step.dropped found superseded
    | false =>
      rcases shown : renderer.render (Simulation.output t.source) s.memory with ⟨message | markup, memory⟩
      · obtain ⟨markup, final, recovered, state⟩ := showFailure_eq renderer message generation { s with memory }
        simpa [step, fire, found, complete, same, superseded, show?, Run.ofSource, shown, state] using
          Step.failed found superseded shown recovered
      · simpa [step, fire, found, complete, same, superseded, show?, Run.ofSource, shown] using
          Step.completed found superseded shown

theorem step_cancel (settings : Settings) (renderer : Renderer σ) (s : Scheduler σ) (generation : Nat) :
    Step settings renderer s (.cancel generation) (s.step settings renderer (.cancel generation)).1
      (s.step settings renderer (.cancel generation)).2 := by
  cases found : s.waiting? generation with
  | none => simpa [step, cancel, found] using Step.gone found
  | some t => simpa [step, cancel, found, mark] using Step.revoked found

theorem step_spec {settings : Settings} {renderer : Renderer σ} {s s' : Scheduler σ} {e : Event} {a : Answer}
    (run : s.step settings renderer e = (a, s')) : Step settings renderer s e a s' := by
  obtain ⟨rfl, rfl⟩ := Prod.ext_iff.mp run
  cases e with
  | schedule source => exact step_schedule settings renderer s source
  | fire generation => exact step_fire settings renderer s generation
  | cancel generation => exact step_cancel settings renderer s generation

theorem Step.run (settings : Settings) (renderer : Renderer σ) (s : Scheduler σ) (e : Event) :
    Step settings renderer s e (s.step settings renderer e).1 (s.step settings renderer e).2 := step_spec rfl

end Playground.Scheduler
