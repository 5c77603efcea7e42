import Mathlib.Data.List.Destutter
import Playground.Proofs.Scheduler.History
import Playground.Proofs.Scheduler.Log
import Playground.Proofs.Scheduler.SafeDisplay

namespace Playground

theorem destutter'_concat {α : Type} [DecidableEq α] (first last : α) (l : List α) :
    (l ++ [last]).destutter' (· ≠ ·) first =
      if (first :: l).getLast? = some last then l.destutter' (· ≠ ·) first
      else l.destutter' (· ≠ ·) first ++ [last] := by
  induction l generalizing first with
  | nil => by_cases same : first = last <;> simp [same]
  | cons a l ih =>
    rw [List.getLast?_cons_cons, List.cons_append]
    by_cases same : first = a
    · subst same
      rw [List.destutter'_cons_neg _ (by simp), List.destutter'_cons_neg _ (by simp), ih]
    · rw [List.destutter'_cons_pos _ same, List.destutter'_cons_pos _ same, ih]
      split <;> rfl

theorem destutter_concat {α : Type} [DecidableEq α] (l : List α) (last : α) :
    (l ++ [last]).destutter (· ≠ ·) =
      if l.getLast? = some last then l.destutter (· ≠ ·) else l.destutter (· ≠ ·) ++ [last] := by
  cases l with
  | nil => rfl
  | cons first l => exact destutter'_concat first last l

/-- The history of a button without completions, with equal neighbours merged. -/
def Control.course (c : Control) : List RunState := (c.history.filter (· != .complete)).destutter (· ≠ ·)

/-- A renderer that renders notices, whatever else it fails on. -/
def Renderer.RendersNotices {σ : Type} (renderer : Renderer σ) : Prop :=
  ∀ records, Style.onlySentinels (records.map (·.style)) = true → ∀ memory,
    ∃ markup after, renderer.render records memory = (.ok markup, after)

theorem Renderer.rendersNotices_panelExcept {styles : List Style} (other : .sentinel ∉ styles) (message : Text) :
    (panelExcept styles message).RendersNotices := by
  intro records notices memory
  have rendered : (records.any (styles.contains ·.style)) = false := by
    rw [List.any_eq_false]
    intro r member
    have sentinel : r.style = .sentinel := by
      simpa using List.all_eq_true.mp notices r.style (List.mem_map_of_mem member)
    simpa [sentinel] using other
  exact ⟨Panel.ofRecords records, (), by simp only [panelExcept, rendered, Bool.false_eq_true, if_false]⟩

theorem Renderer.RendersNotices.not_error {σ : Type} {renderer : Renderer σ} (notices : renderer.RendersNotices)
    {n : Notice} {before after : σ} {message : Text} :
    renderer.render [.ofNotice n] before ≠ (.error message, after) := by
  obtain ⟨markup, later, shown⟩ := notices [.ofNotice n] rfl before
  rw [shown]
  simp

namespace Scheduler

variable {σ τ : Type} {settings : Settings} {renderer : Renderer σ} {s s' : Scheduler σ} {e : Event} {a : Answer}

/-- The runs of a scheduler without what it shows. -/
def bare (s : Scheduler σ) : Scheduler Unit := { generation := s.generation, tickets := s.tickets, memory := () }

/-- What an event makes of the runs of a scheduler. -/
def next (s : Scheduler Unit) : Event → Scheduler Unit
  | .schedule source =>
    if source.allBlank then s
    else
      { s with
        generation := s.generation + 1
        tickets := s.tickets ++ [⟨s.generation + 1, source, .waiting⟩] }
  | .fire generation => if (s.waiting? generation).isSome then s.mark generation .fired else s
  | .cancel generation => if (s.waiting? generation).isSome then s.mark generation .cancelled else s

/-- The entry that an event is to write, if it is to write one. -/
def toWrite? (settings : Settings) (s : Scheduler σ) : Event → Option Entry
  | .schedule source =>
    some (if source.allBlank then ⟨[.ofNotice .noCode], 0, []⟩ else ⟨[.ofNotice .running], s.generation + 1, []⟩)
  | .fire generation =>
    match s.waiting? generation with
    | none => none
    | some t =>
      if s.isSuperseded settings generation then none
      else some ⟨Simulation.output t.source, generation,
        (Pseudocode.Program.ofSource settings.indentUnit t.source).text⟩
  | .cancel _ => none

theorem isSuperseded_bare (s : Scheduler σ) (settings : Settings) (generation : Nat) :
    s.bare.isSuperseded settings generation = s.isSuperseded settings generation := by
  have newestFrom (bound : Nat) : s.bare.newestFrom bound = s.newestFrom bound := by
    induction bound with
    | zero => rfl
    | succ bound ih =>
      rw [Scheduler.newestFrom, Scheduler.newestFrom, ih]
      rfl
  rw [isSuperseded, isSuperseded, newest, newest, newestFrom]
  rfl

theorem toWrite?_bare (s : Scheduler σ) (settings : Settings) (e : Event) :
    s.bare.toWrite? settings e = s.toWrite? settings e := by
  cases e with
  | schedule | cancel => rfl
  | fire generation =>
    rw [toWrite?, toWrite?, isSuperseded_bare]
    rfl

theorem Step.bare (step : Step settings renderer s e a s') (notices : renderer.RendersNotices) :
    s'.bare = s.bare.next e := by
  have waits {generation : Nat} : s.bare.waiting? generation = s.waiting? generation := rfl
  cases step with
  | refused _ failed | unscheduled _ failed => exact absurd failed notices.not_error
  | noticed blank => simp only [next, blank, if_true, Scheduler.bare]
  | issued filled => simp only [next, filled, Bool.false_eq_true, if_false, Scheduler.bare]
  | late none | gone none =>
    rw [next, waits, none, if_neg (by simp)]
  | dropped found | completed found | failed found | revoked found =>
    rw [next, waits, found, if_pos (by simp)]
    rfl

/-- What an event writes: nothing, or the entry that it is to write, or the record of a failure in the place of the
entry's records. -/
theorem Step.display (step : Step settings renderer s e a s') (notices : renderer.RendersNotices) :
    match s.toWrite? settings e with
    | none => s'.display = s.display
    | some entry =>
      s'.display.writes = s.display.writes + 1 ∧ s'.display.generation = entry.generation ∧
        ((renderer.render entry.records s.memory).1.isOk = true →
          s'.display.records = entry.records ∧ s'.display.pseudocode = entry.pseudocode) := by
  cases step with
  | refused _ failed | unscheduled _ failed => exact absurd failed notices.not_error
  | noticed blank =>
    simp only [toWrite?, blank, if_true]
    exact ⟨rfl, rfl, fun _ => ⟨rfl, rfl⟩⟩
  | issued filled =>
    simp only [toWrite?, filled, Bool.false_eq_true, if_false]
    exact ⟨rfl, rfl, fun _ => ⟨rfl, rfl⟩⟩
  | late none => simp only [toWrite?, none]
  | dropped found superseded =>
    simp only [toWrite?, found, superseded, if_true]
    rfl
  | completed found current =>
    simp only [toWrite?, found, current, Bool.false_eq_true, if_false]
    exact ⟨rfl, rfl, fun _ => ⟨rfl, rfl⟩⟩
  | failed found current failed =>
    simp only [toWrite?, found, current, Bool.false_eq_true, if_false, failed]
    exact ⟨rfl, rfl, fun rendered => absurd rendered (by simp [Except.isOk, Except.toBool])⟩
  | revoked => rfl
  | gone => rfl

/-- The course of the button changes with its state, and a completion makes no difference. -/
theorem Step.course (step : Step settings renderer s e a s') (before : Counted s) (after : Counted s')
    (path : s.control.IsPath) :
    s'.control.course = if s'.control.state = s.control.state then s.control.course
      else s.control.course ++ [s'.control.state] := by
  have kept {state : RunState} (other : state = .idle ∨ state = .running) :
      [state].filter (· != .complete) = [state] := by
    rcases other with rfl | rfl <;> rfl
  obtain ⟨earlier, split⟩ := List.getLast?_eq_some_iff.mp path.last
  have last : (s.control.history.filter (· != .complete)).getLast? = some s.control.state := by
    rw [split, List.filter_append, kept before.idle_or_running, List.getLast?_concat]
  -- Entering the state in which the button is anyway would leave its course as it is.
  have entering : (s.control.history.filter (· != .complete) ++ [s'.control.state]).destutter (· ≠ ·) =
      if s'.control.state = s.control.state then s.control.course
      else s.control.course ++ [s'.control.state] := by
    rw [destutter_concat, last]
    simp only [Option.some.injEq, eq_comm, Control.course]
  rw [Control.course, step.history before, List.filter_append]
  by_cases completed : s.completes settings renderer e = true
  · rw [if_pos completed, List.filter_cons_of_neg (by decide), kept after.idle_or_running, entering]
  · rw [if_neg completed]
    by_cases same : s'.control.state = s.control.state
    · rw [if_pos same, if_pos same, List.filter_nil, List.append_nil, Control.course]
    · rw [if_neg same, kept after.idle_or_running, entering, if_neg same]

/-- For each entry that some events are to write, whether it is rendered. -/
def renderings (settings : Settings) (renderer : Renderer σ) (s : Scheduler σ) (es : List Event) : List Bool :=
  (s.occasions settings renderer es).filterMap fun o =>
    (o.1.toWrite? settings o.2).map fun entry => (renderer.render entry.records o.1.memory).1.isOk

/-- The entry that some events write last, if they write any, is rendered, and no record of a failure stands in its
place. -/
def LastRendered (settings : Settings) (renderer : Renderer σ) (s : Scheduler σ) (es : List Event) : Prop :=
  (s.renderings settings renderer es).getLast? ≠ some false

theorem lastRendered_concat (es : List Event) (e : Event) :
    LastRendered settings renderer s (es ++ [e]) ↔
      match (s.after settings renderer es).toWrite? settings e with
      | none => LastRendered settings renderer s es
      | some entry => (renderer.render entry.records (s.after settings renderer es).memory).1.isOk = true := by
  rw [LastRendered, renderings, occasions_concat, List.filterMap_append]
  cases toWrite : (s.after settings renderer es).toWrite? settings e with
  | none =>
    rw [List.filterMap_cons_none (by rw [toWrite]; rfl), List.filterMap_nil, List.append_nil]
    rfl
  | some entry =>
    rw [List.filterMap_cons_some (by rw [toWrite]; rfl), List.filterMap_nil, List.getLast?_concat, Ne,
      Option.some.injEq, Bool.not_eq_false]

/-- Two schedulers whose runs and buttons are the same, and whose displays have been written for the same runs. -/
structure InStep (s : Scheduler σ) (p : Scheduler τ) : Prop where
  bare : s.bare = p.bare
  writes : s.display.writes = p.display.writes
  shown : s.display.generation = p.display.generation
  course : s.control.course = p.control.course

theorem InStep.toWrite?_eq {p : Scheduler τ} (inStep : InStep s p) : s.toWrite? settings e = p.toWrite? settings e := by
  rw [← toWrite?_bare, inStep.bare, toWrite?_bare]

/-- The runs tell what the button says. -/
theorem Counted.control_eq {p : Scheduler τ} (counted : Counted s) (other : Counted p) (same : s.bare = p.bare) :
    s.control.pending = p.control.pending ∧ s.control.state = p.control.state := by
  have pending : s.control.pending = p.control.pending := by
    rw [counted.pending, other.pending]
    exact congrArg waitingCount same
  exact ⟨pending, by rw [counted.state, other.state, pending]⟩

/-- What holds of a scheduler between events, whatever its renderer does. -/
structure Sound (s : Scheduler σ) : Prop where
  counted : Counted s
  path : s.control.IsPath

theorem sound_after (settings : Settings) (renderer : Renderer σ) (memory : σ) (es : List Event) :
    Sound ((start memory).after settings renderer es) :=
  ⟨(accounted_after settings renderer memory es).toCounted, (traced_after settings renderer memory es).path⟩

/-- Schedulers in step are in step after each event: what the two renderers do with it makes no difference. -/
theorem InStep.step {p p' : Scheduler τ} {other : Renderer τ} {b : Answer} (inStep : InStep s p)
    (notices : renderer.RendersNotices) (noticesToo : other.RendersNotices)
    (first : Step settings renderer s e a s') (second : Step settings other p e b p')
    (before : Sound s) (beforeToo : Sound p) (after : Sound s') (afterToo : Sound p') : InStep s' p' := by
  have bare : s'.bare = p'.bare := by rw [first.bare notices, second.bare noticesToo, inStep.bare]
  have course : s'.control.course = p'.control.course := by
    rw [first.course before.counted after.counted before.path,
      second.course beforeToo.counted afterToo.counted beforeToo.path, inStep.course,
      (before.counted.control_eq beforeToo.counted inStep.bare).2, (after.counted.control_eq afterToo.counted bare).2]
  have written := first.display notices
  have writtenToo := second.display noticesToo
  rw [← inStep.toWrite?_eq] at writtenToo
  cases toWrite : s.toWrite? settings e with
  | none =>
    rw [toWrite] at written writtenToo
    exact ⟨bare, by rw [written, writtenToo, inStep.writes], by rw [written, writtenToo, inStep.shown], course⟩
  | some entry =>
    rw [toWrite] at written writtenToo
    obtain ⟨writes, shown, _⟩ := written
    obtain ⟨writesToo, shownToo, _⟩ := writtenToo
    exact ⟨bare, by rw [writes, writesToo, inStep.writes], by rw [shown, shownToo], course⟩

section Runs

variable {first : Renderer σ} {second : Renderer τ} (notices : first.RendersNotices)
  (noticesToo : second.RendersNotices) (settings : Settings) (memory : σ) (otherMemory : τ)

include notices noticesToo

theorem inStep_after (es : List Event) :
    InStep ((start memory).after settings first es) ((start otherMemory).after settings second es) := by
  induction es using List.reverseRecOn with
  | nil => exact ⟨rfl, rfl, rfl, rfl⟩
  | append_singleton es e ih =>
    have after := sound_after settings first memory (es ++ [e])
    have afterToo := sound_after settings second otherMemory (es ++ [e])
    rw [after_concat] at after afterToo
    rw [after_concat, after_concat]
    exact ih.step notices noticesToo (step_spec rfl) (step_spec rfl) (sound_after settings first memory es)
      (sound_after settings second otherMemory es) after afterToo

/-- What both have rendered, both show alike. -/
theorem display_eq_after (es : List Event) (rendered : LastRendered settings first (start memory) es)
    (renderedToo : LastRendered settings second (start otherMemory) es) :
    let display := ((start memory).after settings first es).display
    let other := ((start otherMemory).after settings second es).display
    display.records = other.records ∧ display.pseudocode = other.pseudocode := by
  induction es using List.reverseRecOn with
  | nil => exact ⟨rfl, rfl⟩
  | append_singleton es e ih =>
    have inStep := inStep_after notices noticesToo settings memory otherMemory es
    rw [lastRendered_concat] at rendered renderedToo
    rw [← inStep.toWrite?_eq] at renderedToo
    rw [after_concat, after_concat]
    have written := (Step.run settings first ((start memory).after settings first es) e).display notices
    have writtenToo := (Step.run settings second ((start otherMemory).after settings second es) e).display noticesToo
    rw [← inStep.toWrite?_eq] at writtenToo
    cases toWrite : ((start memory).after settings first es).toWrite? settings e with
    | none =>
      rw [toWrite] at rendered renderedToo written writtenToo
      simp only [written, writtenToo]
      exact ih rendered renderedToo
    | some entry =>
      rw [toWrite] at rendered renderedToo written writtenToo
      obtain ⟨records, pseudocode⟩ := written.2.2 rendered
      obtain ⟨recordsToo, pseudocodeToo⟩ := writtenToo.2.2 renderedToo
      exact ⟨records.trans recordsToo.symm, pseudocode.trans pseudocodeToo.symm⟩

end Runs

/-- If the output of a run that fires cannot be rendered, the one record of that failure is shown, as the renderer
renders it, or else the panel. -/
def ShowsFailures (settings : Settings) (renderer : Renderer σ) (s : Scheduler σ) : Prop :=
  ∀ generation t message between, s.waiting? generation = some t → s.isSuperseded settings generation = false →
    renderer.render (Simulation.output t.source) s.memory = (.error message, between) →
    let record : Record := ⟨.error, Markup.escape ("Error: ".toList ++ message)⟩
    let display := (s.step settings renderer (.fire generation)).2.display
    display.records = [record] ∧ display.pseudocode = [] ∧ display.generation = generation ∧
      display.markup = match (renderer.render [record] between).1 with
        | .ok markup => markup
        | .error _ => Panel.ofRecord record

theorem FailureMarkup.eq {record : Record} {before after : σ} {markup : Text}
    (shown : FailureMarkup renderer record before markup after) :
    markup = match (renderer.render [record] before).1 with
      | .ok markup => markup
      | .error _ => Panel.ofRecord record := by
  cases shown with
  | rendered shown => rw [shown]
  | panel failed => rw [failed]

theorem showsFailures (settings : Settings) (renderer : Renderer σ) (s : Scheduler σ) :
    ShowsFailures settings renderer s := by
  intro generation t message between found current failed
  have step := Step.run settings renderer s (.fire generation)
  generalize s.step settings renderer (.fire generation) = outcome at step ⊢
  obtain ⟨answer, s'⟩ := outcome
  cases step with
  | late none =>
    rw [none] at found
    contradiction
  | dropped _ superseded =>
    rw [current] at superseded
    contradiction
  | completed same _ shown =>
    obtain rfl := Option.some.inj (same.symm.trans found)
    rw [failed] at shown
    obtain ⟨rendered, _⟩ := Prod.mk.inj shown
    contradiction
  | failed same _ failed' shown =>
    obtain rfl := Option.some.inj (same.symm.trans found)
    obtain ⟨⟨⟩, rfl⟩ := Prod.mk.inj (failed.symm.trans failed')
    exact ⟨rfl, rfl, rfl, shown.eq⟩

theorem Step.not_raised (step : Step settings renderer s e a s') (notices : renderer.RendersNotices) (message : Text) :
    a ≠ .raised message := by
  intro raised
  obtain ⟨_, _, _, failed⟩ := step.raised_iff.mp raised
  obtain ⟨_, _, shown⟩ := notices [.ofNotice .noCode] rfl s.memory
  rw [shown] at failed
  contradiction

/-- Two renderers may fail on whatever they like but notices. For the same events no failure comes through, and the
two schedulers agree on the runs, on the button, on how often the display was written and for which run last. Where
both have rendered what was written last, they show the same; and but for completions the two buttons have the same
history. A run whose output cannot be rendered shows the one record of that failure. -/
theorem failures_isolated (settings : Settings) (first : Renderer σ) (second : Renderer τ)
    (notices : first.RendersNotices) (noticesToo : second.RendersNotices) (memory : σ) (otherMemory : τ)
    (es : List Event) :
    let s := (start memory).after settings first es
    let p := (start otherMemory).after settings second es
    (∀ e message, (s.step settings first e).1 ≠ .raised message) ∧
      (∀ e message, (p.step settings second e).1 ≠ .raised message) ∧
      s.generation = p.generation ∧ s.tickets = p.tickets ∧
      s.control.pending = p.control.pending ∧ s.control.state = p.control.state ∧
      s.display.writes = p.display.writes ∧ s.display.generation = p.display.generation ∧
      (LastRendered settings first (start memory) es → LastRendered settings second (start otherMemory) es →
        s.display.records = p.display.records ∧ s.display.pseudocode = p.display.pseudocode) ∧
      s.control.course = p.control.course ∧
      ShowsFailures settings first s ∧ ShowsFailures settings second p := by
  intro s p
  have inStep : InStep s p := inStep_after notices noticesToo settings memory otherMemory es
  have control := (sound_after settings first memory es).counted.control_eq
    (sound_after settings second otherMemory es).counted inStep.bare
  refine ⟨?_, ?_, congrArg Scheduler.generation inStep.bare, congrArg Scheduler.tickets inStep.bare, control.1,
    control.2, inStep.writes, inStep.shown, ?_, inStep.course, showsFailures settings first s,
    showsFailures settings second p⟩
  · intro e message
    exact (step_spec rfl).not_raised notices message
  · intro e message
    exact (step_spec rfl).not_raised noticesToo message
  · exact display_eq_after notices noticesToo settings memory otherMemory es

/-- One renderer fails on plain records, the other one on sparkling ones and on the record of that failure, too. Of two
runs that overlap each renderer shows one. -/
theorem failures_isolated_overlapping :
    let first := Renderer.panelExcept [.plain] "boom".toList
    let second := Renderer.panelExcept [.glow, .error] "<bang>".toList
    let es : List Event :=
      [.schedule "spill \"a\"".toList, .schedule "skibidi spill \"b\"".toList, .fire 1, .fire 2]
    let s := (start ()).after Settings.standard first es
    let p := (start ()).after Settings.standard second es
    first.RendersNotices ∧ second.RendersNotices ∧
      s.display.records = [⟨.glow, ['b']⟩] ∧ p.display.records = [⟨.error, "Error: &lt;bang&gt;".toList⟩] ∧
      s.tickets = p.tickets ∧ s.display.writes = p.display.writes ∧
      s.control.history = [.idle, .running, .complete, .idle] ∧
      p.control.history = [.idle, .running, .complete, .running, .idle] ∧
      s.control.course = p.control.course := by
  intro first second es s p
  have notices : first.RendersNotices := Renderer.rendersNotices_panelExcept (by decide) _
  have noticesToo : second.RendersNotices := Renderer.rendersNotices_panelExcept (by decide) _
  obtain ⟨_, _, _, tickets, _, _, writes, _, _, course, _⟩ :=
    failures_isolated Settings.standard first second notices noticesToo () () es
  exact ⟨notices, noticesToo, by decide, by decide, tickets, writes, by decide, by decide, course⟩

end Scheduler

end Playground
