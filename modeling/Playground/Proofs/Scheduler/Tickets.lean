import Mathlib.Data.List.Nodup
import Playground.Proofs.Scheduler.Event

namespace Playground.Scheduler

variable {σ : Type}

/-- The tickets carry the generations from one up to the newest, in the order of issue. -/
def Numbered (s : Scheduler σ) : Prop := s.tickets.map (·.generation) = List.range' 1 s.generation

theorem Numbered.nodup {s : Scheduler σ} (numbered : s.Numbered) : (s.tickets.map (·.generation)).Nodup := by
  rw [numbered]
  exact List.nodup_range'

theorem Numbered.unique {s : Scheduler σ} (numbered : s.Numbered) {t u : Ticket} (first : t ∈ s.tickets)
    (second : u ∈ s.tickets) (same : t.generation = u.generation) : t = u :=
  List.inj_on_of_nodup_map numbered.nodup first second same

theorem Numbered.mem_iff {s : Scheduler σ} (numbered : s.Numbered) {generation : Nat} :
    (∃ t ∈ s.tickets, t.generation = generation) ↔ 1 ≤ generation ∧ generation ≤ s.generation := by
  rw [← List.mem_map, numbered, List.mem_range'_1]
  omega

theorem Numbered.issue {s s' : Scheduler σ} (numbered : s.Numbered) {source : Text}
    (tickets : s'.tickets = s.tickets ++ [⟨s.generation + 1, source, .waiting⟩])
    (generation : s'.generation = s.generation + 1) : s'.Numbered := by
  simp only [Numbered, tickets, generation, List.map_append, numbered.symm, List.range'_1_concat,
    List.map_cons, List.map_nil]
  rw [numbered, Nat.add_comm]

theorem waiting?_eq_none_iff {s : Scheduler σ} {generation : Nat} :
    s.waiting? generation = none ↔ ∀ t ∈ s.tickets, t.generation = generation → t.phase ≠ .waiting := by
  simp [waiting?]

theorem Numbered.waiting?_eq_some_iff {s : Scheduler σ} (numbered : s.Numbered) {generation : Nat} {t : Ticket} :
    s.waiting? generation = some t ↔ t ∈ s.tickets ∧ t.generation = generation ∧ t.phase = .waiting := by
  constructor
  · intro found
    exact ⟨List.mem_of_find?_eq_some found, generation_of_waiting? found⟩
  · rintro ⟨member, named, waits⟩
    cases found : s.waiting? generation with
    | none => exact absurd waits (waiting?_eq_none_iff.mp found t member named)
    | some u =>
      have atU := generation_of_waiting? found
      rw [numbered.unique member (List.mem_of_find?_eq_some found) (named.trans atU.1.symm)]

theorem Numbered.phase_eq_waiting {s : Scheduler σ} (numbered : s.Numbered) {generation : Nat} {t u : Ticket}
    (found : s.waiting? generation = some t) (member : u ∈ s.tickets) (named : u.generation = generation) :
    u.phase = .waiting := by
  obtain ⟨inTickets, atT, waits⟩ := numbered.waiting?_eq_some_iff.mp found
  rw [numbered.unique member inTickets (named.trans atT.symm), waits]

@[simp] theorem mark_generation (generation : Nat) (phase : Phase) (s : Scheduler σ) :
    (s.mark generation phase).generation = s.generation := rfl

theorem map_generation_mark (generation : Nat) (phase : Phase) (s : Scheduler σ) :
    (s.mark generation phase).tickets.map (·.generation) = s.tickets.map (·.generation) := by
  simp only [mark, List.map_map]
  apply List.map_congr_left
  intro t _
  simp only [Function.comp_apply]
  split <;> rfl

theorem map_source_mark (generation : Nat) (phase : Phase) (s : Scheduler σ) :
    (s.mark generation phase).tickets.map (·.source) = s.tickets.map (·.source) := by
  simp only [mark, List.map_map]
  apply List.map_congr_left
  intro t _
  simp only [Function.comp_apply]
  split <;> rfl

/-- A ticket after marking is an unmarked one of another generation, or the marked one. -/
theorem mem_tickets_mark {s : Scheduler σ} {generation : Nat} {phase : Phase} {t : Ticket} :
    t ∈ (s.mark generation phase).tickets ↔
      t ∈ s.tickets ∧ t.generation ≠ generation ∨
        ∃ u ∈ s.tickets, u.generation = generation ∧ t = { u with phase } := by
  simp only [mark, List.mem_map, beq_iff_eq]
  constructor
  · rintro ⟨u, member, rfl⟩
    split
    · rename_i named
      exact Or.inr ⟨u, member, named, rfl⟩
    · rename_i other
      exact Or.inl ⟨member, other⟩
  · rintro (⟨member, other⟩ | ⟨u, member, named, rfl⟩)
    · exact ⟨t, member, if_neg other⟩
    · exact ⟨u, member, if_pos named⟩

theorem Numbered.mark {s : Scheduler σ} (numbered : s.Numbered) (generation : Nat) (phase : Phase) :
    (s.mark generation phase).Numbered := by
  simp only [Numbered, map_generation_mark, mark_generation]
  exact numbered

def waitingCount (s : Scheduler σ) : Nat := s.tickets.countP (·.phase == .waiting)

theorem map_mark_of_ne {ts : List Ticket} {generation : Nat} {phase : Phase}
    (others : ∀ u ∈ ts, u.generation ≠ generation) :
    (ts.map fun u => if u.generation == generation then { u with phase } else u) = ts := by
  rw [List.map_congr_left (g := id), List.map_id]
  intro u member
  simp only [beq_iff_eq, others u member, if_false, id_eq]

/-- Marking a waiting run as something else takes exactly one off the runs that wait. -/
theorem Numbered.waitingCount_mark {s : Scheduler σ} (numbered : s.Numbered) {generation : Nat} {t : Ticket}
    {phase : Phase} (found : s.waiting? generation = some t) (stopped : phase ≠ .waiting) :
    (s.mark generation phase).waitingCount + 1 = s.waitingCount := by
  obtain ⟨member, named, waits⟩ := numbered.waiting?_eq_some_iff.mp found
  obtain ⟨front, back, split⟩ := List.append_of_mem member
  have nodup := numbered.nodup
  rw [split, List.map_append, List.map_cons, List.nodup_append, List.nodup_cons] at nodup
  obtain ⟨_, ⟨notBack, _⟩, apart⟩ := nodup
  have inFront : ∀ u ∈ front, u.generation ≠ generation := by
    intro u inFront same
    exact apart u.generation (List.mem_map_of_mem inFront) t.generation (List.mem_cons_self ..)
      (same.trans named.symm)
  have inBack : ∀ u ∈ back, u.generation ≠ generation := by
    intro u inBack same
    exact notBack (List.mem_map.mpr ⟨u, inBack, same.trans named.symm⟩)
  have counted : (phase == Phase.waiting) = false := by simpa using stopped
  simp only [waitingCount, Scheduler.mark, split, List.map_append, List.map_cons, map_mark_of_ne inFront,
    map_mark_of_ne inBack, named, beq_self_eq_true, if_true, List.countP_append, List.countP_cons, waits, counted,
    Bool.false_eq_true, if_false]
  omega

/-- Marking a waiting run gives it what its new phase has. No run loses what a waiting run has not. -/
theorem Numbered.exists_mark {s : Scheduler σ} (numbered : s.Numbered) {generation : Nat} {t : Ticket}
    (found : s.waiting? generation = some t) (holds : Phase → Prop) (notWaiting : ¬ holds .waiting)
    (phase : Phase) (other : Nat) :
    (∃ u ∈ (s.mark generation phase).tickets, u.generation = other ∧ holds u.phase) ↔
      (∃ u ∈ s.tickets, u.generation = other ∧ holds u.phase) ∨ other = generation ∧ holds phase := by
  obtain ⟨member, named, _⟩ := numbered.waiting?_eq_some_iff.mp found
  simp only [mem_tickets_mark]
  constructor
  · rintro ⟨u, ⟨inTickets, _⟩ | ⟨v, _, atV, rfl⟩, atU, has⟩
    · exact Or.inl ⟨u, inTickets, atU, has⟩
    · exact Or.inr ⟨atU.symm.trans atV, has⟩
  · rintro (⟨u, inTickets, atU, has⟩ | ⟨rfl, has⟩)
    · have different : u.generation ≠ generation := by
        intro same
        rw [numbered.phase_eq_waiting found inTickets same] at has
        exact notWaiting has
      exact ⟨u, Or.inl ⟨inTickets, different⟩, atU, has⟩
    · exact ⟨{ t with phase }, Or.inr ⟨t, member, named, rfl⟩, named, has⟩

def HasPhase (s : Scheduler σ) (generation : Nat) (phase : Phase) : Prop :=
  ∃ t ∈ s.tickets, t.generation = generation ∧ t.phase = phase

theorem Numbered.hasPhase_unique {s : Scheduler σ} (numbered : s.Numbered) {generation : Nat} {first second : Phase}
    (has : s.HasPhase generation first) (too : s.HasPhase generation second) : first = second := by
  obtain ⟨t, member, named, rfl⟩ := has
  obtain ⟨u, inTickets, same, rfl⟩ := too
  rw [numbered.unique member inTickets (named.trans same.symm)]

theorem Numbered.hasPhase_mark {s : Scheduler σ} (numbered : s.Numbered) {generation other : Nat} {t : Ticket}
    {phase final : Phase} (found : s.waiting? generation = some t) (stopped : final ≠ .waiting) :
    (s.mark generation phase).HasPhase other final ↔
      s.HasPhase other final ∨ other = generation ∧ phase = final :=
  numbered.exists_mark found (· = final) stopped.symm phase other

/-- The runs that have fired or been cancelled are those of before and the one that the event ends. -/
theorem Step.hasPhase_iff {settings : Settings} {renderer : Renderer σ} {s s' : Scheduler σ} {e : Event} {a : Answer}
    (step : Step settings renderer s e a s') (numbered : s.Numbered) {generation : Nat} {phase : Phase}
    (final : phase ≠ .waiting) :
    s'.HasPhase generation phase ↔ s.HasPhase generation phase ∨
      a = .ended ∧ (e = .fire generation ∧ phase = .fired ∨ e = .cancel generation ∧ phase = .cancelled) := by
  cases step with
  | noticed | refused | unscheduled | late | gone => simp [HasPhase]
  | issued => simp [HasPhase, final.symm]
  | dropped found | completed found | failed found =>
    refine (numbered.hasPhase_mark found final).trans (or_congr_right ?_)
    simp [eq_comm]
  | revoked found =>
    refine (numbered.hasPhase_mark found final).trans (or_congr_right ?_)
    simp [eq_comm]

theorem Numbered.getElem?_eq {s : Scheduler σ} (numbered : s.Numbered) {t : Ticket} (member : t ∈ s.tickets) :
    0 < t.generation ∧ s.tickets[t.generation - 1]? = some t := by
  obtain ⟨place, below, atPlace⟩ := List.mem_iff_getElem.mp member
  have same : (s.tickets.map (·.generation))[place]? = (List.range' 1 s.generation)[place]? := by rw [numbered]
  have inRange : place < s.generation := by
    have lengths := congrArg List.length numbered
    simp only [List.length_map, List.length_range'] at lengths
    omega
  rw [List.getElem?_map, List.getElem?_eq_getElem below, atPlace, List.getElem?_range' inRange] at same
  simp only [Option.map_some, Option.some.injEq] at same
  have back : t.generation - 1 = place := by omega
  exact ⟨by omega, by rw [back, List.getElem?_eq_getElem below, atPlace]⟩

theorem Numbered.length_tickets {s : Scheduler σ} (numbered : s.Numbered) : s.tickets.length = s.generation := by
  simpa using congrArg List.length numbered

theorem isCancelled_iff {s : Scheduler σ} {generation : Nat} :
    s.isCancelled generation = true ↔ ∃ t ∈ s.tickets, t.generation = generation ∧ t.phase = .cancelled := by
  simp [isCancelled]

/-- The search downwards stops at the greatest generation that has not been cancelled. -/
theorem lt_newestFrom_iff {s : Scheduler σ} {generation bound : Nat} :
    generation < s.newestFrom bound ↔
      ∃ newer, generation < newer ∧ newer ≤ bound ∧ s.isCancelled newer = false := by
  induction bound with
  | zero =>
    simp only [newestFrom]
    constructor
    · omega
    · rintro ⟨newer, above, below, _⟩
      omega
  | succ bound ih =>
    unfold newestFrom
    split
    · rename_i cancelled
      rw [ih]
      constructor
      · rintro ⟨newer, above, below, live⟩
        exact ⟨newer, above, by omega, live⟩
      · rintro ⟨newer, above, below, live⟩
        have different : newer ≠ bound + 1 := by
          rintro rfl
          rw [cancelled] at live
          contradiction
        exact ⟨newer, above, by omega, live⟩
    · rename_i live
      constructor
      · intro above
        exact ⟨bound + 1, above, Nat.le_refl _, by simpa using live⟩
      · rintro ⟨newer, above, below, _⟩
        omega

/-- A completion is dropped exactly if only the newest counts and some newer run has not been cancelled. -/
theorem Numbered.isSuperseded_iff {s : Scheduler σ} (numbered : s.Numbered) {settings : Settings}
    {generation : Nat} :
    s.isSuperseded settings generation = true ↔
      settings.overlapPolicy = .latestOnly ∧
        ∃ t ∈ s.tickets, generation < t.generation ∧ t.phase ≠ .cancelled := by
  simp only [isSuperseded, Bool.and_eq_true, beq_iff_eq, decide_eq_true_eq]
  rw [newest, lt_newestFrom_iff]
  apply and_congr_right
  intro _
  constructor
  · rintro ⟨newer, above, below, live⟩
    obtain ⟨t, member, named⟩ := numbered.mem_iff.mpr ⟨by omega, below⟩
    refine ⟨t, member, by omega, fun cancelled => ?_⟩
    rw [isCancelled_iff.mpr ⟨t, member, named, cancelled⟩] at live
    contradiction
  · rintro ⟨t, member, above, live⟩
    refine ⟨t.generation, above, (numbered.mem_iff.mp ⟨t, member, rfl⟩).2, ?_⟩
    rw [Bool.eq_false_iff, Ne, isCancelled_iff]
    rintro ⟨u, inTickets, same, cancelled⟩
    rw [numbered.unique inTickets member same] at cancelled
    exact live cancelled

end Playground.Scheduler
