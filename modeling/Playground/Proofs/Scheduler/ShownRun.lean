import Playground.Proofs.Scheduler.Generations

namespace Playground.Scheduler

variable {σ : Type} {settings : Settings} {renderer : Renderer σ} {s s' : Scheduler σ} {e : Event} {a : Answer}

/-- Whether an event gives up the run that it is to issue, because the notice of the run cannot be rendered. -/
def givesUp (renderer : Renderer σ) (s : Scheduler σ) : Event → Bool
  | .schedule source => !source.allBlank && !s.issues renderer (.schedule source)
  | .fire _ | .cancel _ => false

/-- The run that an event writes for: the one that it issues, or the one that it fires. -/
def runOf? (renderer : Renderer σ) (s : Scheduler σ) : Event → Option Nat
  | .schedule source => if s.issues renderer (.schedule source) = true then some (s.generation + 1) else none
  | .fire generation => some generation
  | .cancel _ => none

/-- Whether an event writes to the display. -/
def writes (settings : Settings) (renderer : Renderer σ) (s : Scheduler σ) (e : Event) : Bool :=
  (s.step settings renderer e).2.display.writes != s.display.writes

/-- The last of some events that writes to the display, with the state that it meets. -/
def lastWrite? (settings : Settings) (renderer : Renderer σ) (s : Scheduler σ) (es : List Event) :
    Option (Scheduler σ × Event) :=
  ((s.occasions settings renderer es).filter fun o => o.1.writes settings renderer o.2).getLast?

theorem lastWrite?_concat (es : List Event) (e : Event) :
    s.lastWrite? settings renderer (es ++ [e]) =
      if (s.after settings renderer es).writes settings renderer e = true then some (s.after settings renderer es, e)
      else s.lastWrite? settings renderer es := by
  rw [lastWrite?, occasions_concat, List.filter_append, List.filter_singleton]
  cases (s.after settings renderer es).writes settings renderer e with
  | true => rw [cond_true, List.getLast?_concat, if_pos rfl]
  | false => rw [cond_false, List.append_nil, if_neg Bool.false_ne_true, lastWrite?]

theorem not_issues_of_givesUp (givesUp : s.givesUp renderer e = true) : s.issues renderer e = false := by
  cases e with
  | schedule =>
    rw [Scheduler.givesUp, Bool.and_eq_true] at givesUp
    simpa using givesUp.2
  | fire | cancel => rfl

theorem runOf?_of_givesUp (givesUp : s.givesUp renderer e = true) : s.runOf? renderer e = none := by
  have unissued := not_issues_of_givesUp givesUp
  cases e with
  | schedule => simp [runOf?, unissued]
  | fire | cancel => simp [Scheduler.givesUp] at givesUp

/-- An event that does not write leaves the display alone, and issues nothing. -/
theorem Step.of_silent (step : Step settings renderer s e a s') (silent : s'.display.writes = s.display.writes) :
    s'.display = s.display ∧ s'.generation = s.generation := by
  cases step with
  | noticed | unscheduled | issued | completed | failed => exact absurd silent (Nat.succ_ne_self _)
  | refused | late | dropped | revoked | gone => exact ⟨rfl, rfl⟩

/-- An event that writes leaves the number of the run that it writes for, or zero, unless it gives up a run. -/
theorem Step.shown_eq (step : Step settings renderer s e a s') (writes : s'.display.writes ≠ s.display.writes) :
    s'.display.generation =
      if s.givesUp renderer e = true then s.generation + 1 else (s.runOf? renderer e).getD 0 := by
  cases step with
  | noticed blank => simp [Display.write, givesUp, runOf?, issues, blank]
  | unscheduled filled failed =>
    simp [Display.write, givesUp, issues, filled, failed, Except.isOk, Except.toBool]
  | issued filled shown =>
    simp [Display.write, givesUp, runOf?, issues, filled, shown, Except.isOk, Except.toBool]
  | completed | failed => rfl
  | refused | late | dropped | revoked | gone => exact absurd rfl writes

/-- The run that an event writes for has been issued when the event is over. -/
theorem Step.runOf?_le (step : Step settings renderer s e a s') (numbered : s.Numbered)
    (writes : s'.display.writes ≠ s.display.writes) : (s.runOf? renderer e).getD 0 ≤ s'.generation := by
  have fired {g : Nat} {t : Ticket} (found : s.waiting? g = some t) : g ≤ s.generation := by
    obtain ⟨member, named, _⟩ := numbered.waiting?_eq_some_iff.mp found
    exact (numbered.mem_iff.mp ⟨t, member, named⟩).2
  cases step with
  | noticed blank => simp [runOf?, issues, blank]
  | unscheduled filled failed => simp [runOf?, issues, failed, Except.isOk, Except.toBool]
  | issued filled shown => simp [runOf?, issues, filled, shown, Except.isOk, Except.toBool]
  | completed found | failed found => exact fired found
  | refused | late | dropped | revoked | gone => exact absurd rfl writes

/-- The display tells of the last event that has written to it. -/
structure Tells (renderer : Renderer σ) (s : Scheduler σ) (last : Option (Scheduler σ × Event)) : Prop where
  untouched : last = none → s.display.generation = 0
  tied : ∀ o ∈ last, o.1.givesUp renderer o.2 = false →
    s.display.generation = (o.1.runOf? renderer o.2).getD 0 ∧ s.display.generation ≤ s.generation
  givenUp : ∀ o ∈ last, o.1.givesUp renderer o.2 = true → s.display.generation = s.generation + 1

theorem Tells.keep {last : Option (Scheduler σ × Event)} (tells : Tells renderer s last)
    (display : s'.display = s.display) (generation : s'.generation = s.generation) : Tells renderer s' last := by
  constructor <;> rw [display]
  · exact tells.untouched
  · rw [generation]
    exact tells.tied
  · rw [generation]
    exact tells.givenUp

theorem Step.tells (step : Step settings renderer s e a s') (numbered : s.Numbered)
    (writes : s'.display.writes ≠ s.display.writes) : Tells renderer s' (some (s, e)) := by
  have shown := step.shown_eq writes
  constructor
  · rintro ⟨⟩
  · rintro _ ⟨⟩ keeps
    rw [keeps, if_neg Bool.false_ne_true] at shown
    exact ⟨shown, shown.trans_le (step.runOf?_le numbered writes)⟩
  · rintro _ ⟨⟩ givesUp
    rw [if_pos givesUp] at shown
    rw [shown, step.issued_iff.2, not_issues_of_givesUp givesUp, if_neg Bool.false_ne_true]

theorem tells_after (settings : Settings) (renderer : Renderer σ) (memory : σ) (es : List Event) :
    Tells renderer ((start memory).after settings renderer es) ((start memory).lastWrite? settings renderer es) := by
  induction es using List.reverseRecOn with
  | nil => exact ⟨fun _ => rfl, by rintro _ ⟨⟩, by rintro _ ⟨⟩⟩
  | append_singleton es e ih =>
    have step := Step.run settings renderer ((start memory).after settings renderer es) e
    rw [after_concat, lastWrite?_concat]
    split
    · next writes =>
      rw [Scheduler.writes, bne_iff_ne] at writes
      exact step.tells (numbered_after settings renderer memory es) writes
    · next silent =>
      rw [Scheduler.writes, bne_iff_ne, not_not] at silent
      obtain ⟨display, generation⟩ := step.of_silent silent
      exact ih.keep display generation

/-- The display names the run that was last written for, which has been issued, or zero if that write belonged to no
run or there was none. The one exception is a run that was given up and not written over since: then the display names
the first number that has not been issued, though no run is written for. -/
theorem shown_run_issued_unless_given_up (settings : Settings) (renderer : Renderer σ) (memory : σ)
    (es : List Event) :
    let s := (start memory).after settings renderer es
    let issued := issued ((start memory).moments settings renderer es)
    let last := (start memory).lastWrite? settings renderer es
    (last = none → s.display.generation = 0) ∧
      (∀ o ∈ last, o.1.givesUp renderer o.2 = false →
        s.display.generation = (o.1.runOf? renderer o.2).getD 0 ∧
          (s.display.generation = 0 ∨ s.display.generation ∈ issued)) ∧
      (∀ o ∈ last, o.1.givesUp renderer o.2 = true →
        o.1.runOf? renderer o.2 = none ∧ s.display.generation = s.generation + 1 ∧
          s.display.generation ∉ issued) := by
  intro s issued last
  have tells : Tells renderer s last := tells_after settings renderer memory es
  have accounted : Accounted _ s := accounted_after settings renderer memory es
  refine ⟨tells.untouched, ?tied, ?givenUp⟩
  case tied =>
    -- Every number from one up to that of the newest run has been issued.
    intro o isLast keeps
    obtain ⟨shown, upTo⟩ := tells.tied o isLast keeps
    exact ⟨shown, (Nat.eq_zero_or_pos _).imp_right fun positive => accounted.mem_issued_iff.mpr ⟨positive, upTo⟩⟩
  case givenUp =>
    intro o isLast givesUp
    have shown := tells.givenUp o isLast givesUp
    refine ⟨runOf?_of_givesUp givesUp, shown, ?_⟩
    rw [accounted.mem_issued_iff]
    omega

/-- The first run has fired and is shown. Then the notice of a second one cannot be rendered, and the display names
run two, while only one run has been issued. -/
theorem shown_run_issued_unless_given_up_second :
    let renderer := Renderer.panelExceptCalls [2] "boom".toList
    let fired : List Event := [.schedule "spill \"a\"".toList, .fire 1]
    let es := fired ++ [.schedule "spill \"b\"".toList]
    let s := (start 0).after Settings.standard renderer es
    let ms := (start 0).moments Settings.standard renderer es
    ((start 0).after Settings.standard renderer fired).display.generation = 1 ∧
      s.display.records = [.failure "boom".toList] ∧ s.display.generation = 2 ∧ issued ms = [1] ∧
      s.display.generation ∉ issued ms := by
  intro renderer fired es s ms
  obtain ⟨_, _, givenUp⟩ := shown_run_issued_unless_given_up Settings.standard renderer 0 es
  have isLast : (start 0).lastWrite? Settings.standard renderer es =
      some ((start 0).after Settings.standard renderer fired, .schedule "spill \"b\"".toList) := by
    rw [lastWrite?_concat, if_pos (by decide)]
  obtain ⟨_, _, unissued⟩ := givenUp _ isLast (by decide)
  exact ⟨by decide, by decide, by decide, by decide, unissued⟩

end Playground.Scheduler
