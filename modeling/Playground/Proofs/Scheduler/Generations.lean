import Mathlib.Order.Bounds.Basic
import Playground.Proofs.Scheduler.Conservation

namespace Playground

/-- The panel, but failing with a message at some of its calls, which are counted from zero. -/
def Renderer.panelExceptCalls (calls : List Nat) (message : Text) : Renderer Nat where
  render records call :=
    (if calls.contains call then .error message else .ok (Panel.ofRecords records), call + 1)

namespace Scheduler

/-- The run that a moment fires. -/
def Moment.fired? : Moment → Option Nat
  | ⟨.fire generation, .ended⟩ => some generation
  | _ => none

/-- The run that a moment cancels. -/
def Moment.cancelled? : Moment → Option Nat
  | ⟨.cancel generation, .ended⟩ => some generation
  | _ => none

/-- The generations of the runs that some moments fire. -/
def fired (ms : List Moment) : List Nat := ms.filterMap Moment.fired?

def cancelled (ms : List Moment) : List Nat := ms.filterMap Moment.cancelled?

variable {σ : Type} {settings : Settings} {renderer : Renderer σ} {s s' : Scheduler σ} {e : Event} {a : Answer}
  {ms : List Moment} {g : Nat}

theorem mem_fired_concat : g ∈ fired (ms ++ [⟨e, a⟩]) ↔ g ∈ fired ms ∨ e = .fire g ∧ a = .ended := by
  rw [fired, List.filterMap_append, List.mem_append]
  refine or_congr_right ?_
  cases e <;> cases a <;> simp [Moment.fired?, eq_comm]

theorem mem_cancelled_concat : g ∈ cancelled (ms ++ [⟨e, a⟩]) ↔ g ∈ cancelled ms ∨ e = .cancel g ∧ a = .ended := by
  rw [cancelled, List.filterMap_append, List.mem_append]
  refine or_congr_right ?_
  cases e <;> cases a <;> simp [Moment.cancelled?, eq_comm]

/-- The moments tell which tickets have fired and which have been cancelled. -/
structure Recorded (ms : List Moment) (s : Scheduler σ) : Prop where
  mem_fired_iff : ∀ g, g ∈ fired ms ↔ s.HasPhase g .fired
  mem_cancelled_iff : ∀ g, g ∈ cancelled ms ↔ s.HasPhase g .cancelled

theorem Recorded.step (recorded : Recorded ms s) (numbered : s.Numbered) (step : Step settings renderer s e a s') :
    Recorded (ms ++ [⟨e, a⟩]) s' where
  mem_fired_iff g := by
    rw [mem_fired_concat, recorded.mem_fired_iff, step.hasPhase_iff numbered (by decide)]
    simp [and_comm]
  mem_cancelled_iff g := by
    rw [mem_cancelled_concat, recorded.mem_cancelled_iff, step.hasPhase_iff numbered (by decide)]
    simp [and_comm]

theorem recorded_after (settings : Settings) (renderer : Renderer σ) (memory : σ) (es : List Event) :
    Recorded ((start memory).moments settings renderer es) ((start memory).after settings renderer es) := by
  induction es using List.reverseRecOn with
  | nil => constructor <;> simp [fired, cancelled, moments, HasPhase, start]
  | append_singleton es e ih =>
    rw [moments_concat, after_concat]
    exact ih.step (numbered_after settings renderer memory es) (step_spec rfl)

theorem Recorded.not_mem_fired (recorded : Recorded ms s) (numbered : s.Numbered) (member : g ∈ cancelled ms) :
    g ∉ fired ms := by
  rw [recorded.mem_cancelled_iff] at member
  rw [recorded.mem_fired_iff]
  intro both
  have same := numbered.hasPhase_unique member both
  contradiction

theorem Recorded.of_mem_cancelled (recorded : Recorded ms s) (numbered : s.Numbered) (member : g ∈ cancelled ms) :
    1 ≤ g ∧ g ≤ s.generation := by
  obtain ⟨t, inTickets, named, _⟩ := (recorded.mem_cancelled_iff g).mp member
  exact numbered.mem_iff.mp ⟨t, inTickets, named⟩

/-- Whether an event issues a ticket: a program that is not blank is scheduled, and the notice of its run is rendered. -/
def issues (renderer : Renderer σ) (s : Scheduler σ) : Event → Bool
  | .schedule source => !source.allBlank && (renderer.render [.ofNotice .running] s.memory).1.isOk
  | .fire _ | .cancel _ => false

theorem Step.issued_iff (step : Step settings renderer s e a s') :
    (⟨e, a⟩ : Moment).issued? = (if s.issues renderer e = true then some (s.generation + 1) else none) ∧
      s'.generation = if s.issues renderer e = true then s.generation + 1 else s.generation := by
  cases step with
  | noticed blank | refused blank => simp [issues, blank, Moment.issued?]
  | unscheduled filled failed => simp [issues, failed, Except.isOk, Except.toBool, Moment.issued?]
  | issued filled shown => simp [issues, filled, shown, Except.isOk, Except.toBool, Moment.issued?]
  | late | dropped | completed | failed | revoked | gone => exact ⟨rfl, rfl⟩

/-- The search goes down from a number, one by one, as long as the number is to be passed over, and ends at the first
one that is not. There may be none. -/
inductive Descends (passed : List Int) : Int → Int → Prop
  | here {n : Int} : n ∉ passed → Descends passed n n
  | down {n found : Int} : n ∈ passed → Descends passed (n - 1) found → Descends passed n found

/-- The search ends exactly at the greatest number that is not to be passed over. -/
theorem descends_iff {passed : List Int} {n found : Int} :
    Descends passed n found ↔ IsGreatest {k | k ≤ n ∧ k ∉ passed} found := by
  constructor
  · intro search
    induction search with
    | here stays => exact ⟨⟨le_rfl, stays⟩, fun k member => member.1⟩
    | @down n found passes _ ih =>
      obtain ⟨⟨below, stays⟩, greatest⟩ := ih
      refine ⟨⟨by omega, stays⟩, ?_⟩
      rintro k ⟨upTo, notPassed⟩
      have different : k ≠ n := by
        rintro rfl
        exact notPassed passes
      exact greatest ⟨by omega, notPassed⟩
  · rintro ⟨⟨below, stays⟩, greatest⟩
    -- The way down to a number that is not passed over is finite.
    obtain ⟨distance, rfl⟩ := Int.le.dest below
    induction distance with
    | zero => simpa using Descends.here stays
    | succ distance ih =>
      have passes : found + ↑(distance + 1) ∈ passed := by
        by_contra notPassed
        have last := greatest ⟨le_rfl, notPassed⟩
        omega
      refine .down passes ?_
      have next : found + ↑(distance + 1) - 1 = found + ↑distance := by omega
      rw [next]
      refine ih (fun k member => greatest ⟨?_, member.2⟩) (by omega)
      have upTo := member.1
      omega

theorem newest_le (s : Scheduler σ) : s.newest ≤ s.generation := by
  by_contra above
  obtain ⟨newer, _, _, _⟩ := lt_newestFrom_iff.mp (Nat.lt_of_not_le above)
  omega

theorem isCancelled_of_newest_lt (above : s.newest < g) (issued : g ≤ s.generation) : s.isCancelled g = true := by
  by_contra live
  rw [Bool.not_eq_true] at live
  exact Nat.lt_irrefl s.newest (lt_newestFrom_iff.mpr ⟨g, above, issued, live⟩)

theorem isCancelled_newest (positive : 0 < s.newest) : s.isCancelled s.newest = false := by
  obtain ⟨newer, notBelow, issued, live⟩ : ∃ newer, s.newest - 1 < newer ∧ newer ≤ s.generation ∧
      s.isCancelled newer = false := lt_newestFrom_iff.mp (Nat.sub_one_lt_of_lt positive)
  have notAbove : ¬ s.newest < newer := by
    intro above
    rw [isCancelled_of_newest_lt above issued] at live
    contradiction
  rwa [show s.newest = newer by omega]

theorem Recorded.isCancelled_iff (recorded : Recorded ms s) : s.isCancelled g = true ↔ g ∈ cancelled ms := by
  rw [Scheduler.isCancelled_iff, recorded.mem_cancelled_iff, HasPhase]

theorem Recorded.newest_not_mem (recorded : Recorded ms s) (numbered : s.Numbered) : s.newest ∉ cancelled ms := by
  intro member
  have live := isCancelled_newest (recorded.of_mem_cancelled numbered member).1
  rw [recorded.isCancelled_iff.mpr member] at live
  contradiction

/-- Of all numbers up to the last one that has been issued, the newest run has the greatest that is not the number of a
cancelled run. Zero is none. -/
theorem Recorded.isGreatest_newest (recorded : Recorded ms s) (numbered : s.Numbered) :
    IsGreatest {k : Int | k ≤ s.generation ∧ k ∉ (cancelled ms).map Int.ofNat} s.newest := by
  refine ⟨⟨Int.ofNat_le.mpr (newest_le s), ?_⟩, ?_⟩
  · intro member
    obtain ⟨g, isCancelled, same⟩ := List.mem_map.mp member
    obtain rfl : g = s.newest := Int.ofNat.inj same
    exact recorded.newest_not_mem numbered isCancelled
  · rintro k ⟨upTo, live⟩
    by_contra above
    obtain ⟨g, rfl⟩ := Int.eq_ofNat_of_zero_le (by omega : 0 ≤ k)
    have gone : s.isCancelled g = true := isCancelled_of_newest_lt (by omega) (by omega)
    exact live (List.mem_map_of_mem (recorded.isCancelled_iff.mp gone))

/-- The tickets are numbered from one in the order of issue, without a gap. An event that issues none takes no number.
Only runs that have been issued and have not fired are among the cancelled ones. So the search for the newest run ends,
whatever has happened: at the greatest number of a run that has not been cancelled, or at zero if there is none. -/
theorem generations_numbered (settings : Settings) (renderer : Renderer σ) (memory : σ) (es : List Event) :
    let s := (start memory).after settings renderer es
    let ms := (start memory).moments settings renderer es
    issued ms = List.range' 1 s.generation ∧
      (∀ e, (⟨e, (s.step settings renderer e).1⟩ : Moment).issued? =
          (if s.issues renderer e = true then some (s.generation + 1) else none) ∧
        (s.step settings renderer e).2.generation =
          if s.issues renderer e = true then s.generation + 1 else s.generation) ∧
      (∀ g ∈ cancelled ms, 1 ≤ g ∧ g ≤ s.generation ∧ g ∉ fired ms) ∧
      (∀ found, Descends ((cancelled ms).map Int.ofNat) s.generation found ↔ found = s.newest) ∧
      (IsGreatest {g | g ∈ issued ms ∧ g ∉ cancelled ms} s.newest ∨
        s.newest = 0 ∧ ∀ g ∈ issued ms, g ∈ cancelled ms) := by
  intro s ms
  have accounted : Accounted ms s := accounted_after settings renderer memory es
  have recorded : Recorded ms s := recorded_after settings renderer memory es
  have numbered := accounted.numbered
  have greatest := recorded.isGreatest_newest numbered
  refine ⟨accounted.issued_eq_range, fun e => (Step.run settings renderer s e).issued_iff, ?cancelled, ?search, ?newest⟩
  case cancelled =>
    intro g member
    obtain ⟨positive, upTo⟩ := recorded.of_mem_cancelled numbered member
    exact ⟨positive, upTo, recorded.not_mem_fired numbered member⟩
  case search =>
    intro found
    rw [descends_iff]
    exact ⟨fun other => other.unique greatest, fun same => same ▸ greatest⟩
  case newest =>
    have all {g : Nat} (isIssued : g ∈ issued ms) (above : s.newest < g) : g ∈ cancelled ms :=
      recorded.isCancelled_iff.mp (isCancelled_of_newest_lt above (accounted.mem_issued_iff.mp isIssued).2)
    rcases Nat.eq_zero_or_pos s.newest with zero | positive
    · refine Or.inr ⟨zero, fun g isIssued => all isIssued ?_⟩
      rw [zero]
      exact (accounted.mem_issued_iff.mp isIssued).1
    · refine Or.inl ⟨⟨accounted.mem_issued_iff.mpr ⟨positive, newest_le s⟩, recorded.newest_not_mem numbered⟩, ?_⟩
      rintro g ⟨isIssued, live⟩
      by_contra above
      exact live (all isIssued (Nat.lt_of_not_le above))

/-- The notice of the second program cannot be rendered, and the third one is blank, so the fourth one gets the number
two. When both runs have been cancelled, the search passes them over and ends at zero. -/
theorem generations_numbered_passed_over :
    let renderer := Renderer.panelExceptCalls [1] "boom".toList
    let es : List Event :=
      [.schedule "spill \"a\"".toList, .schedule "spill \"b\"".toList, .schedule " ".toList,
        .schedule "spill \"c\"".toList, .cancel 2, .cancel 1]
    let s := (start 0).after Settings.standard renderer es
    let ms := (start 0).moments Settings.standard renderer es
    s.tickets.map (·.source) = ["spill \"a\"".toList, "spill \"c\"".toList] ∧ issued ms = [1, 2] ∧
      cancelled ms = [2, 1] ∧ Descends [2, 1] 2 0 := by
  intro renderer es s ms
  obtain ⟨numbered, _, _, search, _⟩ := generations_numbered Settings.standard renderer 0 es
  have two : s.generation = 2 := by decide
  have gone : cancelled ms = [2, 1] := by decide
  have found := (search 0).mpr (by decide)
  rw [gone, two] at found
  exact ⟨by decide, numbered.trans (congrArg (List.range' 1) two), gone, found⟩

end Scheduler

end Playground
