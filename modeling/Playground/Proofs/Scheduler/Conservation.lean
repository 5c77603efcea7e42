import Mathlib.Data.List.Induction
import Playground.Proofs.Scheduler.Tickets

namespace Playground

namespace Control

theorem pending_start (c : Control) : c.start.pending = c.pending + 1 := by
  simp only [start]
  split <;> rfl

theorem state_start (c : Control) : c.start.state = .running := by
  simp only [start]
  split
  · assumption
  · rfl

theorem pending_release (c : Control) : c.release.pending = c.pending - 1 := by
  simp only [release]
  split
  · rfl
  · split <;> rfl

theorem state_release (c : Control) : c.release.state = if c.release.pending = 0 then .idle else .running := by
  rw [pending_release]
  simp only [release]
  split
  · rfl
  · split
    · assumption
    · rfl

/-- The way in which a run gives its place back: with or without having shown its output. -/
inductive Released (c : Control) : Control → Prop
  | release : Released c c.release
  | complete : Released c c.complete

theorem Released.pending {c c' : Control} (released : Released c c') : c'.pending = c.pending - 1 := by
  cases released with
  | release => exact pending_release c
  | complete => exact pending_release (c.enter .complete)

theorem Released.state {c c' : Control} (released : Released c c') :
    c'.state = if c'.pending = 0 then .idle else .running := by
  cases released with
  | release => exact state_release c
  | complete => exact state_release (c.enter .complete)

end Control

namespace Scheduler

variable {σ : Type}

/-- The generations of the tickets that some moments issue. -/
def issued (ms : List Moment) : List Nat := ms.filterMap Moment.issued?

def ended (ms : List Moment) : List Nat := ms.filterMap Moment.ended?

theorem issued_concat (ms : List Moment) (m : Moment) : issued (ms ++ [m]) = issued ms ++ m.issued?.toList := by
  cases h : m.issued? <;> simp [issued, h]

theorem ended_concat (ms : List Moment) (m : Moment) : ended (ms ++ [m]) = ended ms ++ m.ended?.toList := by
  cases h : m.ended? <;> simp [ended, h]

/-- The run button counts the runs that wait, and shows whether there are any. -/
structure Counted (s : Scheduler σ) : Prop where
  numbered : s.Numbered
  pending : s.control.pending = s.waitingCount
  state : s.control.state = if s.control.pending = 0 then .idle else .running

/-- The button and the tickets agree with the moments that have led to them. -/
structure Accounted (ms : List Moment) (s : Scheduler σ) : Prop extends Counted s where
  issued_eq : issued ms = s.tickets.map (·.generation)
  mem_ended_iff : ∀ g, g ∈ ended ms ↔ ∃ t ∈ s.tickets, t.generation = g ∧ t.phase ≠ .waiting
  ended_nodup : (ended ms).Nodup

theorem accounted_start (memory : σ) : Accounted [] (start memory) where
  numbered := rfl
  pending := rfl
  state := rfl
  issued_eq := rfl
  mem_ended_iff := by simp [ended, start]
  ended_nodup := List.nodup_nil

variable {ms : List Moment} {s s' : Scheduler σ} {m : Moment}

/-- A moment that neither issues nor ends a run leaves the account as it is. -/
theorem Accounted.keep (accounted : Accounted ms s) (noIssue : m.issued? = none) (noEnd : m.ended? = none)
    (control : s'.control = s.control) (generation : s'.generation = s.generation)
    (tickets : s'.tickets = s.tickets) : Accounted (ms ++ [m]) s' where
  numbered := by simpa only [Numbered, tickets, generation] using accounted.numbered
  pending := by simpa only [waitingCount, control, tickets] using accounted.pending
  state := by simpa only [control] using accounted.state
  issued_eq := by simpa [issued_concat, noIssue, tickets] using accounted.issued_eq
  mem_ended_iff := by simpa [ended_concat, noEnd, tickets] using accounted.mem_ended_iff
  ended_nodup := by simpa [ended_concat, noEnd] using accounted.ended_nodup

theorem Accounted.issue (accounted : Accounted ms s) {source : Text}
    (issues : m.issued? = some (s.generation + 1)) (noEnd : m.ended? = none)
    (control : s'.control = s.control.start) (generation : s'.generation = s.generation + 1)
    (tickets : s'.tickets = s.tickets ++ [⟨s.generation + 1, source, .waiting⟩]) :
    Accounted (ms ++ [m]) s' where
  numbered := accounted.numbered.issue tickets generation
  pending := by
    rw [control, Control.pending_start, accounted.pending]
    simp [waitingCount, tickets]
  state := by simp [control, Control.state_start, Control.pending_start]
  issued_eq := by simp [issued_concat, issues, tickets, accounted.issued_eq]
  mem_ended_iff := by
    intro g
    rw [ended_concat, noEnd, Option.toList_none, List.append_nil, accounted.mem_ended_iff, tickets]
    simp
  ended_nodup := by simpa [ended_concat, noEnd] using accounted.ended_nodup

/-- A waiting run that ends gives its place back, and has not ended before. -/
theorem Accounted.finish (accounted : Accounted ms s) {g : Nat} {t : Ticket} {phase : Phase} {control : Control}
    (found : s.waiting? g = some t) (stopped : phase ≠ .waiting) (released : s.control.Released control)
    (noIssue : m.issued? = none) (ends : m.ended? = some g) (controls : s'.control = control)
    (generation : s'.generation = s.generation) (tickets : s'.tickets = (s.mark g phase).tickets) :
    Accounted (ms ++ [m]) s' where
  numbered := by
    have marked := accounted.numbered.mark g phase
    simpa only [Numbered, tickets, generation, mark_generation] using marked
  pending := by
    have fewer := accounted.numbered.waitingCount_mark found stopped
    have same : s'.waitingCount = (s.mark g phase).waitingCount := by simp only [waitingCount, tickets]
    rw [controls, released.pending, accounted.pending]
    omega
  state := by rw [controls, released.state]
  issued_eq := by simp [issued_concat, noIssue, tickets, map_generation_mark, accounted.issued_eq]
  mem_ended_iff := by
    intro h
    have marked := accounted.numbered.exists_mark found (· ≠ .waiting) (by simp) phase h
    rw [ended_concat, ends, Option.toList_some, List.mem_append, List.mem_singleton, accounted.mem_ended_iff,
      tickets, marked]
    simp only [ne_eq, stopped, not_false_eq_true, and_true]
  ended_nodup := by
    rw [ended_concat, ends, Option.toList_some, List.nodup_append]
    refine ⟨accounted.ended_nodup, List.nodup_singleton _, ?_⟩
    intro h before h' now same
    rw [List.mem_singleton] at now
    obtain ⟨u, inTickets, atU, ended⟩ := (accounted.mem_ended_iff h).mp before
    exact ended (accounted.numbered.phase_eq_waiting found inTickets (atU.trans (same.trans now)))

theorem Accounted.step {settings : Settings} {renderer : Renderer σ} {e : Event} {a : Answer}
    (accounted : Accounted ms s) (step : Step settings renderer s e a s') : Accounted (ms ++ [⟨e, a⟩]) s' := by
  cases step with
  | noticed => exact accounted.keep rfl rfl rfl rfl rfl
  | refused => exact accounted.keep rfl rfl rfl rfl rfl
  | unscheduled => exact accounted.keep rfl rfl rfl rfl rfl
  | issued => exact accounted.issue rfl rfl rfl rfl rfl
  | late => exact accounted.keep rfl rfl rfl rfl rfl
  | dropped found => exact accounted.finish found (by decide) .release rfl rfl rfl rfl rfl
  | completed found => exact accounted.finish found (by decide) .complete rfl rfl rfl rfl rfl
  | failed found => exact accounted.finish found (by decide) .release rfl rfl rfl rfl rfl
  | revoked found => exact accounted.finish found (by decide) .release rfl rfl rfl rfl rfl
  | gone => exact accounted.keep rfl rfl rfl rfl rfl

theorem accounted_after (settings : Settings) (renderer : Renderer σ) (memory : σ) (es : List Event) :
    Accounted ((start memory).moments settings renderer es) ((start memory).after settings renderer es) := by
  induction es using List.reverseRecOn with
  | nil => exact accounted_start memory
  | append_singleton es e ih =>
    rw [moments_concat, after_concat]
    exact ih.step (step_spec rfl)

theorem numbered_after (settings : Settings) (renderer : Renderer σ) (memory : σ) (es : List Event) :
    ((start memory).after settings renderer es).Numbered :=
  (accounted_after settings renderer memory es).numbered

theorem Accounted.waiting_iff (accounted : Accounted ms s) {g : Nat} :
    (s.waiting? g).isSome = true ↔ g ∈ issued ms ∧ g ∉ ended ms := by
  rw [Option.isSome_iff_exists, accounted.issued_eq, accounted.mem_ended_iff, List.mem_map]
  constructor
  · rintro ⟨t, found⟩
    obtain ⟨member, named, _⟩ := accounted.numbered.waiting?_eq_some_iff.mp found
    refine ⟨⟨t, member, named⟩, ?_⟩
    rintro ⟨u, inTickets, atU, ended⟩
    exact ended (accounted.numbered.phase_eq_waiting found inTickets atU)
  · rintro ⟨⟨t, member, named⟩, waits⟩
    refine ⟨t, accounted.numbered.waiting?_eq_some_iff.mpr ⟨member, named, ?_⟩⟩
    by_contra ended
    exact waits ⟨t, member, named, ended⟩

theorem Accounted.issued_nodup (accounted : Accounted ms s) : (issued ms).Nodup := by
  rw [accounted.issued_eq]
  exact accounted.numbered.nodup

/-- The tickets are issued in the order of their numbers. -/
theorem Accounted.issued_eq_range (accounted : Accounted ms s) : issued ms = List.range' 1 s.generation :=
  accounted.issued_eq.trans accounted.numbered

theorem Accounted.mem_issued_iff (accounted : Accounted ms s) {g : Nat} :
    g ∈ issued ms ↔ 1 ≤ g ∧ g ≤ s.generation := by
  rw [accounted.issued_eq, List.mem_map, accounted.numbered.mem_iff]

theorem Accounted.ended_subset (accounted : Accounted ms s) : ended ms ⊆ issued ms := by
  intro g member
  obtain ⟨t, inTickets, named, _⟩ := (accounted.mem_ended_iff g).mp member
  rw [accounted.issued_eq]
  exact List.mem_map.mpr ⟨t, inTickets, named⟩

theorem Accounted.pending_eq (accounted : Accounted ms s) :
    s.control.pending = ((issued ms).filter (· ∉ ended ms)).length := by
  rw [accounted.pending, waitingCount, accounted.issued_eq, ← List.countP_eq_length_filter, List.countP_map]
  apply List.countP_congr
  intro t member
  simp only [beq_iff_eq, Function.comp_apply, decide_eq_true_eq, accounted.mem_ended_iff]
  constructor
  · rintro waits ⟨u, inTickets, same, ended⟩
    rw [accounted.numbered.unique inTickets member same] at ended
    exact ended waits
  · intro unended
    by_contra ended
    exact unended ⟨t, member, rfl, ended⟩

/-- A run that ends was waiting, and gives its place back in one of the two ways. -/
theorem Step.released {settings : Settings} {renderer : Renderer σ} {e : Event}
    (step : Step settings renderer s e .ended s') :
    (∃ g t, s.waiting? g = some t) ∧ s.control.Released s'.control := by
  cases step with
  | dropped found => exact ⟨⟨_, _, found⟩, .release⟩
  | completed found => exact ⟨⟨_, _, found⟩, .complete⟩
  | failed found => exact ⟨⟨_, _, found⟩, .release⟩
  | revoked found => exact ⟨⟨_, _, found⟩, .release⟩

theorem Counted.pending_pos (counted : Counted s) {g : Nat} {t : Ticket} (found : s.waiting? g = some t) :
    0 < s.control.pending := by
  have fewer := counted.numbered.waitingCount_mark found (show Phase.fired ≠ .waiting by decide)
  rw [counted.pending]
  omega

/-- The count never has to be kept from falling below zero. -/
theorem Counted.pending_of_ended (counted : Counted s) {settings : Settings} {renderer : Renderer σ} {e : Event}
    (step : Step settings renderer s e .ended s') : s'.control.pending + 1 = s.control.pending := by
  obtain ⟨⟨g, t, found⟩, released⟩ := step.released
  have positive := counted.pending_pos found
  rw [released.pending]
  omega

/-- The renderer's failure comes through exactly where it cannot show that there is nothing to run. -/
theorem Step.raised_iff {settings : Settings} {renderer : Renderer σ} {e : Event} {a : Answer}
    (step : Step settings renderer s e a s') {message : Text} :
    a = .raised message ↔ ∃ source, e = .schedule source ∧ source.allBlank = true ∧
      (renderer.render [.ofNotice .noCode] s.memory).1 = .error message := by
  cases step with
  | noticed blank shown => simp [shown]
  | @refused source reason memory blank failed =>
    constructor
    · rintro ⟨⟩
      exact ⟨source, rfl, blank, by rw [failed]⟩
    · rintro ⟨_, ⟨⟩, _, same⟩
      rw [failed] at same
      cases same
      rfl
  | unscheduled filled => simp [filled]
  | issued filled => simp [filled]
  | late | dropped | completed | failed | revoked | gone => simp

/-- A failure that comes through changes nothing but what the renderer remembers. -/
theorem Step.of_raised {settings : Settings} {renderer : Renderer σ} {e : Event} {message : Text}
    (step : Step settings renderer s e (.raised message) s') : s' = { s with memory := s'.memory } := by
  cases step
  rfl

theorem cancel_fst (s : Scheduler σ) (g : Nat) : (s.cancel g).1 = (s.waiting? g).isSome := by
  cases found : s.waiting? g <;> simp [cancel, found]

theorem cancel_of_not_waiting {s : Scheduler σ} {g : Nat} (refused : (s.cancel g).1 = false) :
    (s.cancel g).2.1 = s := by
  rw [cancel_fst, Option.isSome_eq_false_iff, Option.isNone_iff_eq_none] at refused
  simp [cancel, refused]

theorem step_fire_fst (settings : Settings) (renderer : Renderer σ) (s : Scheduler σ) (g : Nat) :
    (s.step settings renderer (.fire g)).1 = .ended ↔ (s.waiting? g).isSome = true := by
  cases found : s.waiting? g <;> simp [Scheduler.step, found]

/-- After every sequence of events the button counts exactly the runs that have been issued and have neither
fired nor been cancelled; each of them ends at most once, and a cancellation succeeds exactly as long as its run
waits. Only the notice for a blank program can fail for the caller, who then finds everything unchanged. No
place is ever given back that was not taken. -/
theorem runs_conserved (settings : Settings) (renderer : Renderer σ) (memory : σ) (es : List Event) :
    let s := (start memory).after settings renderer es
    let issued := issued ((start memory).moments settings renderer es)
    let ended := ended ((start memory).moments settings renderer es)
    issued.Nodup ∧ ended.Nodup ∧ ended ⊆ issued ∧
      s.control.pending = (issued.filter (· ∉ ended)).length ∧
      s.control.state = (if s.control.pending = 0 then .idle else .running) ∧
      (∀ g, (s.cancel g).1 = true ↔ g ∈ issued ∧ g ∉ ended) ∧
      (∀ g, (s.cancel g).1 = false → (s.cancel g).2.1 = s) ∧
      (∀ g, (s.step settings renderer (.fire g)).1 = .ended ↔ g ∈ issued ∧ g ∉ ended) ∧
      (∀ e message, (s.step settings renderer e).1 = .raised message ↔
        ∃ source, e = .schedule source ∧ source.allBlank = true ∧
          (renderer.render [.ofNotice .noCode] s.memory).1 = .error message) ∧
      (∀ e message s', s.step settings renderer e = (.raised message, s') →
        s'.generation = s.generation ∧ s'.control = s.control ∧ s'.display = s.display ∧
          s'.tickets = s.tickets) ∧
      (∀ e s', s.step settings renderer e = (.ended, s') → s'.control.pending + 1 = s.control.pending) := by
  intro s issued ended
  have accounted : Accounted _ s := accounted_after settings renderer memory es
  refine ⟨accounted.issued_nodup, accounted.ended_nodup, accounted.ended_subset, accounted.pending_eq,
    accounted.state, ?_, ?_, ?_, ?_, ?_, ?_⟩
  · intro g
    rw [cancel_fst]
    exact accounted.waiting_iff
  · intro g
    exact cancel_of_not_waiting
  · intro g
    rw [step_fire_fst]
    exact accounted.waiting_iff
  · intro e message
    exact (step_spec rfl).raised_iff
  · intro e message s' run
    rw [(step_spec run).of_raised]
    exact ⟨rfl, rfl, rfl, rfl⟩
  · intro e s' run
    exact accounted.pending_of_ended (step_spec run)

end Scheduler

end Playground
