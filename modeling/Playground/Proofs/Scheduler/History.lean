import Mathlib.Data.List.Chain
import Playground.Proofs.Scheduler.Conservation

namespace Playground

namespace RunState

/-- The moves of the state machine. -/
def moves : List (RunState × RunState) :=
  [(idle, running), (running, complete), (running, idle), (complete, running), (complete, idle)]

theorem ne_of_mem_moves {a b : RunState} (move : (a, b) ∈ moves) : a ≠ b := by
  rintro rfl
  cases a <;> contradiction

end RunState

namespace Control

theorem history_start (c : Control) :
    c.start.history = c.history ++ if c.start.state = c.state then [] else [c.start.state] := by
  rw [state_start]
  by_cases running : c.state = .running
  · simp only [start, running, if_true, List.append_nil]
  · simp only [start, running, if_false, enter, Ne.symm running]

theorem history_release {c : Control} (running : c.state = .running) :
    c.release.history = c.history ++ if c.release.state = c.state then [] else [c.release.state] := by
  rw [state_release, pending_release, running]
  by_cases last : c.pending - 1 = 0
  · simp only [release, last, if_true, enter, reduceCtorEq, if_false]
  · simp only [release, last, if_false, running, if_true, List.append_nil]

theorem history_complete (c : Control) : c.complete.history = c.history ++ [.complete, c.complete.state] := by
  have state : c.complete.state = if c.pending - 1 = 0 then .idle else .running := by
    rw [complete, state_release, pending_release]
    rfl
  rw [state]
  by_cases last : c.pending - 1 = 0
  · simp only [complete, release, enter, last, if_true, List.append_assoc, List.cons_append, List.nil_append]
  · simp only [complete, release, enter, last, if_false, reduceCtorEq, List.append_assoc, List.cons_append,
      List.nil_append]

/-- The history of a button leads from idle to the state in which it is, by moves of the state machine. -/
structure IsPath (c : Control) : Prop where
  first : c.history.head? = some .idle
  last : c.history.getLast? = some c.state
  moves : c.history.IsChain fun a b => (a, b) ∈ RunState.moves

theorem IsPath.extend {c c' : Control} (path : c.IsPath) {entered : List RunState}
    (history : c'.history = c.history ++ entered) (last : (c.state :: entered).getLast? = some c'.state)
    (moves : (c.state :: entered).IsChain fun a b => (a, b) ∈ RunState.moves) : c'.IsPath where
  first := by rw [history, List.head?_append, path.first, Option.some_or]
  last := by
    rw [List.getLast?_cons] at last
    rw [history, List.getLast?_append, path.last, ← last]
    cases entered.getLast? <;> rfl
  moves := by
    rw [List.isChain_cons] at moves
    rw [history]
    refine path.moves.append moves.2 ?_
    rw [path.last]
    rintro a ⟨⟩
    exact moves.1

end Control

namespace Scheduler

variable {σ : Type} {settings : Settings} {renderer : Renderer σ} {s s' : Scheduler σ} {e : Event} {a : Answer}

/-- Whether an event completes a run: the run waits, is not dropped, and its output is rendered without a failure. -/
def completes (settings : Settings) (renderer : Renderer σ) (s : Scheduler σ) : Event → Bool
  | .fire generation =>
    match s.waiting? generation with
    | none => false
    | some t =>
      !s.isSuperseded settings generation && (renderer.render (Simulation.output t.source) s.memory).1.isOk
  | .schedule _ | .cancel _ => false

/-- Whether an event ends the only run that has not ended. -/
def empties (settings : Settings) (renderer : Renderer σ) (s : Scheduler σ) (e : Event) : Bool :=
  s.control.pending == 1 && (s.step settings renderer e).2.control.pending == 0

/-- While a run waits, the button shows that there is one. -/
theorem Counted.running_of_waiting (counted : Counted s) {generation : Nat} {t : Ticket}
    (found : s.waiting? generation = some t) : s.control.state = .running := by
  rw [counted.state, if_neg (Nat.ne_of_gt (counted.pending_pos found))]

/-- Between events the button is idle or running. -/
theorem Counted.idle_or_running (counted : Counted s) : s.control.state = .idle ∨ s.control.state = .running := by
  rw [counted.state]
  split
  · exact Or.inl rfl
  · exact Or.inr rfl

/-- The states that an event enters. Whether a run is shown, dropped, fails or is cancelled makes no difference to
the state in which the button is left. -/
theorem Step.history (step : Step settings renderer s e a s') (counted : Counted s) :
    s'.control.history = s.control.history ++
      if s.completes settings renderer e = true then [.complete, s'.control.state]
      else if s'.control.state = s.control.state then [] else [s'.control.state] := by
  have released {generation : Nat} {t : Ticket} (found : s.waiting? generation = some t) :=
    Control.history_release (counted.running_of_waiting found)
  cases step with
  | noticed | refused | unscheduled | gone => simp [completes]
  | late none => simp [completes, none]
  | issued =>
    rw [completes, if_neg Bool.false_ne_true]
    exact Control.history_start s.control
  | revoked found =>
    rw [completes, if_neg Bool.false_ne_true]
    exact released found
  | dropped found superseded =>
    simp only [completes, found, superseded, Bool.not_true, Bool.false_and, Bool.false_eq_true, if_false]
    exact released found
  | completed found current shown =>
    simp only [completes, found, current, shown, Bool.not_false, Except.isOk, Except.toBool, Bool.and_self, if_true]
    exact Control.history_complete s.control
  | failed found current failed =>
    simp only [completes, found, current, failed, Except.isOk, Except.toBool, Bool.and_false, Bool.false_eq_true,
      if_false]
    exact released found

theorem Step.of_completes (step : Step settings renderer s e a s')
    (completed : s.completes settings renderer e = true) :
    a = .ended ∧ ∃ generation t, s.waiting? generation = some t := by
  cases step with
  | noticed | refused | unscheduled | issued | revoked | gone => contradiction
  | late none => simp [completes, none] at completed
  | dropped found superseded => simp [completes, found, superseded] at completed
  | failed found current failed => simp [completes, found, failed, Except.isOk, Except.toBool] at completed
  | completed found => exact ⟨rfl, _, _, found⟩

/-- An event changes the number of runs by at most one. -/
theorem Step.pending_le (step : Step settings renderer s e a s') :
    s.control.pending ≤ s'.control.pending + 1 := by
  have fewer {c : Control} (released : s.control.Released c) : s.control.pending ≤ c.pending + 1 := by
    rw [released.pending]
    omega
  cases step with
  | noticed | refused | unscheduled | late | gone => exact Nat.le_succ _
  | issued =>
    show s.control.pending ≤ s.control.start.pending + 1
    rw [Control.pending_start]
    omega
  | dropped | failed | revoked => exact fewer .release
  | completed => exact fewer .complete

theorem Step.isPath (step : Step settings renderer s e a s') (before : Counted s) (after : Counted s')
    (path : s.control.IsPath) : s'.control.IsPath := by
  have history := step.history before
  by_cases completed : s.completes settings renderer e = true
  · obtain ⟨_, generation, t, found⟩ := step.of_completes completed
    rw [if_pos completed] at history
    refine path.extend history rfl ?_
    rw [before.running_of_waiting found]
    rcases after.idle_or_running with state | state <;> rw [state] <;> decide
  · rw [if_neg completed] at history
    by_cases same : s'.control.state = s.control.state
    · rw [if_pos same] at history
      exact path.extend history (by rw [same]; rfl) (List.isChain_singleton _)
    · rw [if_neg same] at history
      refine path.extend history rfl ?_
      -- One of the two states is idle, and the other one running.
      rcases before.idle_or_running with state | state <;> rcases after.idle_or_running with state' | state' <;>
        rw [state, state'] at same ⊢ <;> first | contradiction | decide

theorem Step.count_complete (step : Step settings renderer s e a s') (before : Counted s) (after : Counted s') :
    s'.control.history.count .complete =
      s.control.history.count .complete + if s.completes settings renderer e = true then 1 else 0 := by
  have notComplete : s'.control.state ≠ .complete := by
    rcases after.idle_or_running with state | state <;> simp [state]
  rw [step.history before, List.count_append]
  by_cases completed : s.completes settings renderer e = true
  · simp [completed, notComplete]
  · by_cases same : s'.control.state = s.control.state <;> simp [completed, same, notComplete]

theorem Step.count_idle (step : Step settings renderer s e a s') (before : Counted s) (after : Counted s') :
    s'.control.history.count .idle =
      s.control.history.count .idle + if s.control.pending = 1 ∧ s'.control.pending = 0 then 1 else 0 := by
  rw [step.history before, List.count_append, after.state, before.state]
  by_cases completed : s.completes settings renderer e = true
  · obtain ⟨rfl, _⟩ := step.of_completes completed
    have fewer := before.pending_of_ended step
    have only : s.control.pending = 1 ↔ s'.control.pending = 0 := by omega
    by_cases last : s'.control.pending = 0 <;> simp [completed, only, last]
  · have bound := step.pending_le
    by_cases none : s.control.pending = 0
    · by_cases last : s'.control.pending = 0 <;> simp [completed, none, last]
    · by_cases last : s'.control.pending = 0
      · have only : s.control.pending = 1 := by omega
        simp [completed, only, last]
      · simp [completed, none, last]

/-- The history agrees with the occasions that have led to it. -/
structure Traced (settings : Settings) (renderer : Renderer σ) (os : List (Scheduler σ × Event)) (s : Scheduler σ) :
    Prop where
  path : s.control.IsPath
  completions : s.control.history.count .complete = os.countP fun o => o.1.completes settings renderer o.2
  returns : s.control.history.count .idle = (os.countP fun o => o.1.empties settings renderer o.2) + 1

theorem Traced.step {os : List (Scheduler σ × Event)} (traced : Traced settings renderer os s) (e : Event)
    (before : Counted s) (after : Counted (s.step settings renderer e).2) :
    Traced settings renderer (os ++ [(s, e)]) (s.step settings renderer e).2 := by
  have step := Step.run settings renderer s e
  constructor
  · exact step.isPath before after traced.path
  · rw [step.count_complete before after, traced.completions, List.countP_append, List.countP_singleton]
  · rw [step.count_idle before after, traced.returns, List.countP_append, List.countP_singleton]
    simp only [empties, Bool.and_eq_true, beq_iff_eq]
    omega

theorem traced_after (settings : Settings) (renderer : Renderer σ) (memory : σ) (es : List Event) :
    Traced settings renderer ((start memory).occasions settings renderer es)
      ((start memory).after settings renderer es) := by
  induction es using List.reverseRecOn with
  | nil => exact ⟨⟨rfl, rfl, List.isChain_singleton _⟩, rfl, rfl⟩
  | append_singleton es e ih =>
    have before := (accounted_after settings renderer memory es).toCounted
    have after := (accounted_after settings renderer memory (es ++ [e])).toCounted
    rw [after_concat] at after
    rw [after_concat, occasions_concat]
    exact ih.step e before after

/-- After every sequence of events the history of the button is a path of its state machine that leads from idle to
the state in which it is. Each completed run has left its mark, and no other has; and the button has become idle
whenever the only run that was left has ended. -/
theorem history_path (settings : Settings) (renderer : Renderer σ) (memory : σ) (es : List Event) :
    let control := ((start memory).after settings renderer es).control
    let occasions := (start memory).occasions settings renderer es
    control.history.head? = some .idle ∧
      control.history.getLast? = some control.state ∧
      control.history.IsChain (· ≠ ·) ∧
      (control.history.IsChain fun a b => (a, b) ∈ RunState.moves) ∧
      control.history.count .complete = (occasions.countP fun o => o.1.completes settings renderer o.2) ∧
      control.history.count .idle = (occasions.countP fun o => o.1.empties settings renderer o.2) + 1 := by
  intro control occasions
  obtain ⟨path, completions, returns⟩ := traced_after settings renderer memory es
  exact ⟨path.first, path.last, path.moves.imp fun _ _ => RunState.ne_of_mem_moves, path.moves, completions, returns⟩

end Scheduler

end Playground
