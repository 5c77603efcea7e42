import Playground.Proofs.Scheduler.Conservation
import Playground.Proofs.Scheduler.Log
import Playground.Proofs.Scheduler.SafeDisplay

namespace Playground.Scheduler

variable {σ : Type} {settings : Settings} {renderer : Renderer σ} {s s' : Scheduler σ} {e : Event} {a : Answer}

/-- The run whose completion an event writes to the display, if it does: the one that fires. -/
def completion? (settings : Settings) (renderer : Renderer σ) (s : Scheduler σ) : Event → Option Nat
  | .fire generation =>
    if (s.step settings renderer (.fire generation)).2.display.writes = s.display.writes then none
    else some generation
  | _ => none

/-- The runs whose completions some events write, in the order of the writes. -/
def completions (settings : Settings) (renderer : Renderer σ) (s : Scheduler σ) : List Event → List Nat
  | [] => []
  | e :: rest =>
    (s.completion? settings renderer e).toList ++
      (s.step settings renderer e).2.completions settings renderer rest

theorem completions_append (es later : List Event) :
    s.completions settings renderer (es ++ later) =
      s.completions settings renderer es ++
        (s.after settings renderer es).completions settings renderer later := by
  induction es generalizing s with
  | nil => rfl
  | cons e es ih =>
    rw [List.cons_append, completions, completions, ih, List.append_assoc]
    rfl

/-- A run that has ended stays ended, and in the same way. -/
theorem Step.hasPhase (step : Step settings renderer s e a s') (numbered : s.Numbered) {generation : Nat}
    {phase : Phase} (final : phase ≠ .waiting) (has : s.HasPhase generation phase) :
    s'.HasPhase generation phase :=
  (step.hasPhase_iff numbered final).mpr (Or.inl has)

/-- A completion is written for a run that waits, once all newer runs have been cancelled. -/
theorem Step.of_completion {generation : Nat} (step : Step settings renderer s (.fire generation) a s')
    (written : s'.display.writes ≠ s.display.writes) :
    (∃ t, s.waiting? generation = some t) ∧ s.isSuperseded settings generation = false ∧
      s'.display.generation = generation ∧ s'.tickets = (s.mark generation .fired).tickets := by
  cases step with
  | late => exact absurd rfl written
  | dropped => exact absurd rfl written
  | completed found current => exact ⟨⟨_, found⟩, current, rfl, rfl⟩
  | failed found current => exact ⟨⟨_, found⟩, current, rfl, rfl⟩

theorem completion?_eq_some_iff {generation : Nat} :
    s.completion? settings renderer e = some generation ↔
      e = .fire generation ∧
        (s.step settings renderer (.fire generation)).2.display.writes ≠ s.display.writes := by
  cases e with
  | schedule | cancel => simp [completion?]
  | fire fired =>
    simp only [completion?, Event.fire.injEq]
    split
    · rename_i same
      simp only [reduceCtorEq, false_iff, not_and]
      rintro rfl written
      exact written same
    · rename_i written
      constructor
      · rintro ⟨⟩
        exact ⟨rfl, written⟩
      · rintro ⟨rfl, _⟩
        rfl

/-- Completions have been written in the order of their generations, and their runs have fired. -/
structure Forward (written : List Nat) (s : Scheduler σ) : Prop where
  increasing : written.Pairwise (· < ·)
  fired : ∀ generation ∈ written, s.HasPhase generation .fired

/-- A completion that is written now is newer than every run that has fired before. -/
theorem Numbered.lt_of_fired (numbered : s.Numbered) (latest : settings.overlapPolicy = .latestOnly)
    {generation older : Nat} {t : Ticket} (found : s.waiting? generation = some t)
    (current : s.isSuperseded settings generation = false) (fired : s.HasPhase older .fired) :
    older < generation := by
  obtain ⟨u, member, named, ended⟩ := fired
  have different : older ≠ generation := by
    intro same
    have waits := numbered.phase_eq_waiting found member (named.trans same)
    rw [ended] at waits
    contradiction
  have notNewer : ¬ generation < older := by
    intro newer
    have superseded := numbered.isSuperseded_iff.mpr
      ⟨latest, u, member, by rwa [named], by simp [ended]⟩
    rw [current] at superseded
    contradiction
  omega

theorem Forward.step {written : List Nat} (forward : Forward written s) (numbered : s.Numbered)
    (latest : settings.overlapPolicy = .latestOnly) (e : Event) :
    Forward (written ++ (s.completion? settings renderer e).toList) (s.step settings renderer e).2 := by
  have step : Step settings renderer s e _ (s.step settings renderer e).2 := step_spec rfl
  have kept : ∀ generation ∈ written, (s.step settings renderer e).2.HasPhase generation .fired :=
    fun generation member => step.hasPhase numbered (by decide) (forward.fired generation member)
  cases writes : s.completion? settings renderer e with
  | none => simpa using ⟨forward.increasing, kept⟩
  | some generation =>
    obtain ⟨rfl, changed⟩ := completion?_eq_some_iff.mp writes
    obtain ⟨⟨t, found⟩, current, _, tickets⟩ := step.of_completion changed
    have now : (s.step settings renderer (.fire generation)).2.HasPhase generation .fired := by
      simp only [HasPhase, tickets]
      exact (numbered.hasPhase_mark found (by decide)).mpr (Or.inr ⟨rfl, rfl⟩)
    constructor
    · rw [Option.toList_some, List.pairwise_append]
      refine ⟨forward.increasing, List.pairwise_singleton _ _, ?_⟩
      intro older before newer atNewer
      rw [List.mem_singleton.mp atNewer]
      exact numbered.lt_of_fired latest found current (forward.fired older before)
    · intro other member
      rw [Option.toList_some, List.mem_append, List.mem_singleton] at member
      rcases member with before | rfl
      · exact kept other before
      · exact now

theorem forward_after (renderer : Renderer σ) (latest : settings.overlapPolicy = .latestOnly) (memory : σ)
    (es : List Event) :
    Forward ((start memory).completions settings renderer es) ((start memory).after settings renderer es) := by
  induction es using List.reverseRecOn with
  | nil => exact ⟨List.Pairwise.nil, by simp [completions]⟩
  | append_singleton es e ih =>
    rw [completions_append, after_concat]
    simpa [completions] using ih.step (numbered_after settings renderer memory es) latest e

/-- Where only the newest run counts, completions are written in the order of their generations, whatever the
renderer fails on. At each of them all newer runs have been cancelled, so none waits. Nothing that happens later
brings back the completion of a run that is older than one that has been shown. -/
theorem stale_never_overwrites (settings : Settings) (latest : settings.overlapPolicy = .latestOnly)
    (renderer : Renderer σ) (memory : σ) (es : List Event) :
    let s := (start memory).after settings renderer es
    let written := (start memory).completions settings renderer es
    written.Pairwise (· < ·) ∧
      (∀ generation, s.completion? settings renderer (.fire generation) = some generation →
        (s.step settings renderer (.fire generation)).2.display.generation = generation ∧
          ∀ t ∈ s.tickets, generation < t.generation → t.phase = .cancelled) ∧
      (∀ shown ∈ written, ∀ later, ∀ generation ∈ s.completions settings renderer later, shown < generation) := by
  intro s written
  have numbered : s.Numbered := numbered_after settings renderer memory es
  refine ⟨(forward_after renderer latest memory es).increasing, ?_, ?_⟩
  · intro generation writes
    obtain ⟨_, changed⟩ := completion?_eq_some_iff.mp writes
    obtain ⟨_, current, shows, _⟩ := (step_spec rfl).of_completion changed
    refine ⟨shows, ?_⟩
    intro t member newer
    by_contra live
    have superseded := numbered.isSuperseded_iff.mpr ⟨latest, t, member, newer, live⟩
    rw [current] at superseded
    contradiction
  · intro shown before later generation after
    have increasing := (forward_after renderer latest memory (es ++ later)).increasing
    rw [completions_append, List.pairwise_append] at increasing
    exact increasing.2.2 shown before generation after

/-- The newest of three runs fires first, the second is cancelled while the oldest still waits, and the renderer
fails on the output of a fourth. -/
theorem stale_never_overwrites_overlapping :
    let settings : Settings := { Settings.standard with overlapPolicy := .latestOnly }
    let renderer := Renderer.panelExcept [.glow] "boom".toList
    let es : List Event :=
      [.schedule "spill \"a\"".toList, .schedule "spill \"b\"".toList, .schedule "spill \"c\"".toList, .fire 3,
        .cancel 2, .fire 1, .schedule "skibidi spill \"d\"".toList, .fire 4]
    settings.overlapPolicy = .latestOnly ∧ (start ()).completions settings renderer es = [3, 4] ∧
      ((start ()).completions settings renderer es).Pairwise (· < ·) := by
  intro settings renderer es
  exact ⟨rfl, by decide, (stale_never_overwrites settings rfl renderer () es).1⟩

/-- A ticket is unchanged by marking, or it was the waiting one. -/
theorem Numbered.of_mem_mark (numbered : s.Numbered) {generation : Nat} {t u : Ticket} {phase : Phase}
    (found : s.waiting? generation = some t) (member : u ∈ (s.mark generation phase).tickets) :
    u ∈ s.tickets ∨
      s.waiting? u.generation = some { u with phase := .waiting } ∧ u.generation = generation ∧ u.phase = phase := by
  obtain ⟨inTickets, named, waits⟩ := numbered.waiting?_eq_some_iff.mp found
  rcases mem_tickets_mark.mp member with ⟨old, _⟩ | ⟨v, before, atV, rfl⟩
  · exact Or.inl old
  · obtain rfl := numbered.unique before inTickets (atV.trans named.symm)
    subst named
    exact Or.inr ⟨by rw [found, ← waits], rfl, rfl⟩

/-- A ticket has ended before, or it was waiting and the event is what ends it. -/
theorem Step.of_ended (step : Step settings renderer s e a s') (numbered : s.Numbered) {t : Ticket}
    (member : t ∈ s'.tickets) (ended : t.phase ≠ .waiting) :
    t ∈ s.tickets ∨ s.waiting? t.generation = some { t with phase := .waiting } ∧
      (e = .fire t.generation ∧ t.phase = .fired ∨ e = .cancel t.generation ∧ t.phase = .cancelled) := by
  cases step with
  | noticed | refused | unscheduled | late | gone => exact Or.inl member
  | issued =>
    rcases List.mem_append.mp member with old | new
    · exact Or.inl old
    · rw [List.mem_singleton.mp new] at ended
      exact absurd rfl ended
  | dropped found | completed found | failed found =>
    rcases numbered.of_mem_mark found member with old | ⟨waits, rfl, fired⟩
    · exact Or.inl old
    · exact Or.inr ⟨waits, Or.inl ⟨rfl, fired⟩⟩
  | revoked found =>
    rcases numbered.of_mem_mark found member with old | ⟨waits, rfl, cancelled⟩
    · exact Or.inl old
    · exact Or.inr ⟨waits, Or.inr ⟨rfl, cancelled⟩⟩

theorem Step.issued_subset (step : Step settings renderer s e a s') :
    s.tickets.map (·.generation) ⊆ s'.tickets.map (·.generation) := by
  cases step with
  | noticed | refused | unscheduled | late | gone => exact List.Subset.refl _
  | issued => simp
  | dropped | completed | failed | revoked =>
    rw [map_generation_mark]
    exact List.Subset.refl _

/-- A run that has ended was waiting until the one event that ended it. -/
theorem ended_origin (settings : Settings) (renderer : Renderer σ) (memory : σ) (es : List Event) {t : Ticket}
    (member : t ∈ ((start memory).after settings renderer es).tickets) (ended : t.phase ≠ .waiting) :
    ∃ before e after, es = before ++ e :: after ∧
      ((start memory).after settings renderer before).waiting? t.generation = some { t with phase := .waiting } ∧
      (e = .fire t.generation ∧ t.phase = .fired ∨ e = .cancel t.generation ∧ t.phase = .cancelled) := by
  induction es using List.reverseRecOn with
  | nil => contradiction
  | append_singleton es e ih =>
    rw [after_concat] at member
    have numbered := numbered_after settings renderer memory es
    rcases (step_spec rfl).of_ended numbered member ended with old | ⟨waits, how⟩
    · obtain ⟨before, earlier, after, rfl, waits, how⟩ := ih old
      exact ⟨before, earlier, after ++ [e], by simp, waits, how⟩
    · exact ⟨es, e, [], rfl, waits, how⟩

/-- What is kept by every step holds on after it has once been reached. -/
theorem hasPhase_after {generation : Nat} {phase : Phase} (final : phase ≠ .waiting) (memory : σ)
    (before after : List Event) (has : ((start memory).after settings renderer before).HasPhase generation phase) :
    ((start memory).after settings renderer (before ++ after)).HasPhase generation phase := by
  induction after using List.reverseRecOn with
  | nil => rwa [List.append_nil]
  | append_singleton after e ih =>
    rw [← List.append_assoc, after_concat]
    exact (step_spec rfl).hasPhase (numbered_after settings renderer memory _) final ih

theorem issued_after (settings : Settings) (renderer : Renderer σ) (s : Scheduler σ) (before after : List Event) :
    (s.after settings renderer before).tickets.map (·.generation) ⊆
      (s.after settings renderer (before ++ after)).tickets.map (·.generation) := by
  induction after using List.reverseRecOn with
  | nil => rw [List.append_nil]; exact List.Subset.refl _
  | append_singleton after e ih =>
    rw [← List.append_assoc, after_concat]
    exact List.Subset.trans ih (step_spec rfl).issued_subset

/-- A run that is not cancelled yet and is cancelled later is cancelled by an event in between. -/
theorem cancel_mem {generation : Nat} (memory : σ) (before after : List Event)
    (live : ¬ ((start memory).after settings renderer before).HasPhase generation .cancelled)
    (has : ((start memory).after settings renderer (before ++ after)).HasPhase generation .cancelled) :
    .cancel generation ∈ after := by
  induction after using List.reverseRecOn with
  | nil =>
    rw [List.append_nil] at has
    exact absurd has live
  | append_singleton after e ih =>
    rw [← List.append_assoc, after_concat] at has
    obtain ⟨t, member, rfl, cancelled⟩ := has
    rcases (step_spec rfl).of_ended (numbered_after settings renderer memory _) member (by simp [cancelled]) with
      old | ⟨_, ⟨_, fired⟩ | ⟨rfl, _⟩⟩
    · exact List.mem_append_left _ (ih ⟨t, old, rfl, cancelled⟩)
    · rw [cancelled] at fired
      contradiction
    · simp

/-- A run that fires is shown with its output, or gives way to a newer one that has not been cancelled. -/
theorem Step.shown_or_dropped {generation : Nat} {t : Ticket} (never : renderer.NeverFails) (numbered : s.Numbered)
    (step : Step settings renderer s (.fire generation) a s') (found : s.waiting? generation = some t) :
    s'.display.writes = s.display.writes + 1 ∧ s'.display.records = Simulation.output t.source ∧
        s'.display.generation = generation ∨
      s'.display = s.display ∧ ∃ u ∈ s.tickets, generation < u.generation ∧ u.phase ≠ .cancelled := by
  cases step with
  | late none =>
    rw [none] at found
    contradiction
  | dropped _ superseded => exact Or.inr ⟨rfl, (numbered.isSuperseded_iff.mp superseded).2⟩
  | completed same current shown =>
    obtain rfl := Option.some.inj (same.symm.trans found)
    exact Or.inl ⟨rfl, rfl, rfl⟩
  | failed _ _ failed => exact absurd failed never.not_error

/-- Once no run waits, the newest of those that were not cancelled has fired. Its output was shown then, unless a
newer run was still waiting at that moment. Each of those was cancelled only afterwards. -/
theorem newest_shown_unless_overtaken (settings : Settings) (renderer : Renderer σ) (never : renderer.NeverFails)
    (memory : σ) (es : List Event) (t : Ticket) :
    let s := (start memory).after settings renderer es
    s.control.pending = 0 → t ∈ s.tickets → t.phase ≠ .cancelled →
    (∀ u ∈ s.tickets, t.generation < u.generation → u.phase = .cancelled) →
    ∃ before after, es = before ++ .fire t.generation :: after ∧
      let earlier := (start memory).after settings renderer before
      let display := (earlier.step settings renderer (.fire t.generation)).2.display
      earlier.waiting? t.generation = some { t with phase := .waiting } ∧
        (display.writes = earlier.display.writes + 1 ∧ display.records = Simulation.output t.source ∧
            display.generation = t.generation ∨
          display = earlier.display ∧ (∃ u ∈ earlier.tickets, t.generation < u.generation ∧ u.phase = .waiting) ∧
            ∀ u ∈ earlier.tickets, t.generation < u.generation → u.phase = .waiting →
              .cancel u.generation ∈ after) := by
  intro s idle member notCancelled newest
  have accounted : Accounted _ s := accounted_after settings renderer memory es
  have stopped : t.phase ≠ .waiting := by
    intro waits
    have none : s.waitingCount = 0 := accounted.pending.symm.trans idle
    rw [waitingCount, List.countP_eq_zero] at none
    exact none t member (by simp [waits])
  obtain ⟨before, e, after, split, waits, ⟨rfl, _⟩ | ⟨_, cancelled⟩⟩ :=
    ended_origin settings renderer memory es member stopped
  case inr => exact absurd cancelled notCancelled
  refine ⟨before, after, split, waits, ?_⟩
  have atEnd : s = (start memory).after settings renderer (before ++ .fire t.generation :: after) := by rw [← split]
  have numbered := numbered_after settings renderer memory before
  -- A newer run is among the tickets at the end, too, and there it is cancelled.
  have doomed : ∀ u ∈ ((start memory).after settings renderer before).tickets, t.generation < u.generation →
      s.HasPhase u.generation .cancelled := by
    intro u issued newer
    have still := issued_after settings renderer (start memory) before (.fire t.generation :: after)
      (List.mem_map_of_mem issued)
    rw [← atEnd] at still
    obtain ⟨v, inTickets, same⟩ := List.mem_map.mp still
    exact ⟨v, inTickets, same, newest v inTickets (by omega)⟩
  rcases (step_spec rfl).shown_or_dropped never numbered waits with shown | ⟨same, u, issued, newer, live⟩
  · exact Or.inl shown
  · refine Or.inr ⟨same, ⟨u, issued, newer, ?_⟩, ?_⟩
    · cases phase : u.phase with
      | waiting => rfl
      | cancelled => exact absurd phase live
      | fired =>
        have fired : s.HasPhase u.generation .fired := by
          rw [atEnd]
          exact hasPhase_after (by decide) memory before _ ⟨u, issued, rfl, phase⟩
        have both := accounted.numbered.hasPhase_unique fired (doomed u issued newer)
        contradiction
    · intro u issued newer pending
      have live : ¬ ((start memory).after settings renderer before).HasPhase u.generation .cancelled := by
        intro cancelled
        have both := numbered.hasPhase_unique ⟨u, issued, rfl, pending⟩ cancelled
        contradiction
      have cancelled := doomed u issued newer
      rw [atEnd] at cancelled
      simpa using cancel_mem memory before _ live cancelled

/-- Two runs overlap. The older one fires while the newer one waits and so is dropped; then the newer one is
cancelled. No run is left, the older one is the newest that was not cancelled, and its output is never shown. -/
theorem newest_lost_when_overtaken :
    let settings : Settings := { Settings.standard with overlapPolicy := .latestOnly }
    let es : List Event := [.schedule "spill \"a\"".toList, .schedule "spill \"b\"".toList, .fire 1, .cancel 2]
    let s := (start ()).after settings .panel es
    Renderer.panel.NeverFails ∧ s.control.pending = 0 ∧
      s.tickets = [⟨1, "spill \"a\"".toList, .fired⟩, ⟨2, "spill \"b\"".toList, .cancelled⟩] ∧
      ∀ before ∈ es.inits, ((start ()).after settings .panel before).display.records ≠
        Simulation.output "spill \"a\"".toList := by
  intro settings es s
  exact ⟨panel_neverFails, by decide, by decide, by decide⟩

/-- The newer of two runs is cancelled in time, and the older one is shown when it fires. -/
theorem newest_shown_unless_overtaken_in_time :
    let settings : Settings := { Settings.standard with overlapPolicy := .latestOnly }
    let es : List Event := [.schedule "spill \"a\"".toList, .schedule "spill \"b\"".toList, .cancel 2, .fire 1]
    let s := (start ()).after settings .panel es
    let t : Ticket := ⟨1, "spill \"a\"".toList, .fired⟩
    Renderer.panel.NeverFails ∧ s.control.pending = 0 ∧ t ∈ s.tickets ∧ t.phase ≠ .cancelled ∧
      (∀ u ∈ s.tickets, t.generation < u.generation → u.phase = .cancelled) ∧
      ∃ before after, es = before ++ .fire 1 :: after ∧
        let earlier := (start ()).after settings .panel before
        (earlier.step settings .panel (.fire 1)).2.display.records = [⟨.plain, ['a']⟩] := by
  intro settings es s t
  have idle : s.control.pending = 0 := by decide
  have member : t ∈ s.tickets := by decide
  have newest : ∀ u ∈ s.tickets, t.generation < u.generation → u.phase = .cancelled := by decide
  obtain ⟨before, after, split, waits, ⟨_, records, _⟩ | ⟨_, ⟨u, issued, newer, pending⟩, revoked⟩⟩ :=
    newest_shown_unless_overtaken settings .panel panel_neverFails () es t idle member (by decide) newest
  · exact ⟨panel_neverFails, idle, member, by decide, newest, before, after, split, records⟩
  · have last : ∀ n < es.length, es[n]? = some (.fire t.generation) → es.drop (n + 1) = [] := by decide
    have bound : before.length < es.length := by simp [split]
    have atFire : es[before.length]? = some (.fire t.generation) := by simp [split]
    have rest : es.drop (before.length + 1) = after := by simp [split, ← List.drop_drop]
    rw [last _ bound atFire] at rest
    have later := revoked u issued newer pending
    rw [← rest] at later
    contradiction

end Playground.Scheduler
