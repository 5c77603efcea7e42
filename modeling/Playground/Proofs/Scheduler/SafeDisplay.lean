import Mathlib.Data.List.Induction
import Playground.Proofs.Output.Safe
import Playground.Proofs.Scheduler.Event

namespace Playground

variable {σ : Type}

/-- A renderer that gives the markup of the panel wherever it does not fail. -/
def Renderer.IsPanel (renderer : Renderer σ) : Prop :=
  ∀ records before markup after, renderer.render records before = (.ok markup, after) →
    markup = Panel.ofRecords records

/-- The panel, but failing with a message as soon as a record has one of some styles. -/
def Renderer.panelExcept (styles : List Style) (message : Text) : Renderer Unit where
  render records _ :=
    (if records.any (styles.contains ·.style) then .error message else .ok (Panel.ofRecords records), ())

theorem Renderer.isPanel_panelExcept (styles : List Style) (message : Text) :
    (panelExcept styles message).IsPanel := by
  intro records before markup after shown
  simp only [panelExcept, Prod.mk.injEq] at shown
  obtain ⟨outcome, _⟩ := shown
  split at outcome
  · contradiction
  · exact (Except.ok.inj outcome).symm

namespace Scheduler

variable {settings : Settings} {renderer : Renderer σ} {s s' : Scheduler σ} {e : Event} {a : Answer}

/-- The markup of a single record came from the renderer or from the panel. -/
theorem FailureMarkup.origin {record : Record} {before after : σ} {markup : Text}
    (shown : FailureMarkup renderer record before markup after) :
    renderer.render [record] before = (.ok markup, after) ∨ markup = Panel.ofRecords [record] := by
  cases shown with
  | rendered shown => exact Or.inl shown
  | panel => exact Or.inr (by simp [Panel.ofRecords])

/-- A step leaves the display alone, or writes records made by escaping, with markup of the renderer or of the
panel. -/
theorem Step.written (step : Step settings renderer s e a s') :
    s'.display = s.display ∨ ∃ records markup pseudocode generation,
      s'.display = s.display.write records markup pseudocode generation ∧ (∀ r ∈ records, r.IsMade) ∧
      ((∃ before after, renderer.render records before = (.ok markup, after)) ∨
        markup = Panel.ofRecords records) := by
  have notice (n : Notice) : ∀ r ∈ [Record.ofNotice n], r.IsMade := by
    simpa using Record.isMade_ofNotice n
  have failure (message : Text) : ∀ r ∈ [Record.failure message], r.IsMade := by
    simpa using Record.isMade_failure message
  cases step with
  | noticed blank shown => exact Or.inr ⟨_, _, _, _, rfl, notice _, Or.inl ⟨_, _, shown⟩⟩
  | refused => exact Or.inl rfl
  | unscheduled filled failed shown =>
    exact Or.inr ⟨_, _, _, _, rfl, failure _, shown.origin.imp_left fun shown => ⟨_, _, shown⟩⟩
  | issued filled shown => exact Or.inr ⟨_, _, _, _, rfl, notice _, Or.inl ⟨_, _, shown⟩⟩
  | late => exact Or.inl rfl
  | dropped => exact Or.inl rfl
  | completed found current shown =>
    exact Or.inr ⟨_, _, _, _, rfl, Simulation.isMade_output _, Or.inl ⟨_, _, shown⟩⟩
  | failed found current failed shown =>
    exact Or.inr ⟨_, _, _, _, rfl, failure _, shown.origin.imp_left fun shown => ⟨_, _, shown⟩⟩
  | revoked => exact Or.inl rfl
  | gone => exact Or.inl rfl

theorem Step.safe (step : Step settings renderer s e a s') (panel : renderer.IsPanel)
    (safe : Panel.Safe s.display.records s.display.markup) : Panel.Safe s'.display.records s'.display.markup := by
  rcases step.written with same | ⟨records, markup, pseudocode, generation, written, made, origin⟩
  · rwa [same]
  · have fromPanel : markup = Panel.ofRecords records := by
      rcases origin with ⟨before, after, shown⟩ | fromPanel
      · exact panel records before markup after shown
      · exact fromPanel
    rw [written]
    show Panel.Safe records markup
    rw [fromPanel]
    exact Panel.safe_ofRecords fun r member => (made r member).isEscaped

theorem safe_after (settings : Settings) (panel : renderer.IsPanel) (memory : σ) (es : List Event) :
    let display := ((start memory).after settings renderer es).display
    Panel.Safe display.records display.markup := by
  induction es using List.reverseRecOn with
  | nil => exact ⟨by simp [start], fun _ => ([], []), by simp [start], rfl, rfl⟩
  | append_singleton es e ih =>
    rw [after_concat]
    exact (step_spec rfl).safe panel ih

/-- In every state that a scheduler comes to, with a renderer that gives the panel's markup or fails in any way,
the display holds escaped texts in fixed wrappers and no angle bracket besides. So does the panel of every
program's output. -/
theorem display_safe (settings : Settings) (renderer : Renderer σ) (panel : renderer.IsPanel) (memory : σ)
    (es : List Event) (source : Text) :
    let display := ((start memory).after settings renderer es).display
    Panel.Safe display.records display.markup ∧
      Panel.Safe (Simulation.output source) (Panel.ofRecords (Simulation.output source)) :=
  ⟨safe_after settings panel memory es,
    Panel.safe_ofRecords fun r member => (Simulation.isMade_output source r member).isEscaped⟩

/-- A renderer that fails on the output of a run, and on the record of that failure, too. -/
theorem display_safe_after_failures :
    let renderer := Renderer.panelExcept [.plain, .error] "<img src='x'>&".toList
    let es : List Event := [.schedule "spill \"<b>\"".toList, .fire 1]
    let display := ((start ()).after Settings.standard renderer es).display
    renderer.IsPanel ∧ display.records = [⟨.error, "Error: &lt;img src=&#x27;x&#x27;&gt;&amp;".toList⟩] ∧
      Panel.Safe display.records display.markup := by
  intro renderer es display
  have panel : renderer.IsPanel := Renderer.isPanel_panelExcept _ _
  exact ⟨panel, by decide, (display_safe Settings.standard renderer panel () es []).1⟩

end Scheduler

end Playground
