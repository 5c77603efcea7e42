import Mathlib.Data.List.Induction
import Playground.Proofs.Scheduler.Tickets

namespace Playground

/-- A renderer that gives markup for all records, whatever it remembers. -/
def Renderer.NeverFails {σ : Type} (renderer : Renderer σ) : Prop :=
  ∀ records memory, ∃ markup after, renderer.render records memory = (.ok markup, after)

theorem Renderer.NeverFails.not_error {σ : Type} {renderer : Renderer σ} (never : renderer.NeverFails)
    {records : List Record} {before after : σ} {message : Text} :
    renderer.render records before ≠ (.error message, after) := by
  intro failed
  obtain ⟨markup, later, shown⟩ := never records before
  rw [shown] at failed
  simp at failed

namespace Scheduler

/-- What a write shows: records, the generation that they belong to, and the pseudocode of the run. -/
structure Entry where
  records : List Record
  generation : Nat
  pseudocode : Text
deriving Repr, DecidableEq

/-- The programs issued so far, the first with generation one, the generations that have fired and those that
have been cancelled, and the log. -/
structure Book where
  sources : List Text := []
  fired : List Nat := []
  cancelled : List Nat := []
  log : List Entry := []
deriving Repr, DecidableEq

namespace Book

/-- The program of a generation, if its run has been issued and has neither fired nor been cancelled. -/
def pending? (b : Book) (generation : Nat) : Option Text :=
  if generation = 0 ∨ generation ∈ b.fired ∨ generation ∈ b.cancelled then none
  else b.sources[generation - 1]?

/-- Whether a run that fires now is shown: always, or only if all newer runs have been cancelled. -/
def Shows (policy : OverlapPolicy) (b : Book) (generation : Nat) : Prop :=
  policy = .lastWriteWins ∨
    ∀ newer ∈ List.range' 1 b.sources.length, generation < newer → newer ∈ b.cancelled

instance (policy : OverlapPolicy) (b : Book) (generation : Nat) : Decidable (b.Shows policy generation) :=
  inferInstanceAs (Decidable (_ ∨ _))

/-- What an event adds to the book. -/
def note (settings : Settings) (b : Book) : Event → Book
  | .schedule source =>
    if source.allBlank then { b with log := b.log ++ [⟨[.ofNotice .noCode], 0, []⟩] }
    else
      { b with
        sources := b.sources ++ [source]
        log := b.log ++ [⟨[.ofNotice .running], b.sources.length + 1, []⟩] }
  | .fire generation =>
    match b.pending? generation with
    | none => b
    | some source =>
      if b.Shows settings.overlapPolicy generation then
        { b with
          fired := b.fired ++ [generation]
          log := b.log ++ [⟨Simulation.output source, generation,
            (Pseudocode.Program.ofSource settings.indentUnit source).text⟩] }
      else { b with fired := b.fired ++ [generation] }
  | .cancel generation =>
    match b.pending? generation with
    | none => b
    | some _ => { b with cancelled := b.cancelled ++ [generation] }

def ofEvents (settings : Settings) (es : List Event) : Book := es.foldl (note settings) {}

theorem ofEvents_concat (settings : Settings) (es : List Event) (e : Event) :
    ofEvents settings (es ++ [e]) = (ofEvents settings es).note settings e := by
  simp only [ofEvents, List.foldl_append, List.foldl_cons, List.foldl_nil]

end Book

variable {σ : Type}

/-- What a renderer remembers after it has rendered the entries of a log. -/
def memoryAfter (renderer : Renderer σ) (memory : σ) (log : List Entry) : σ :=
  log.foldl (fun memory entry => (renderer.render entry.records memory).2) memory

/-- A display has been written once for each entry of a log, and shows the last one as it was rendered. -/
def ShowsLast (renderer : Renderer σ) (memory : σ) (log : List Entry) (d : Display) : Prop :=
  d.writes = log.length ∧
    ∀ earlier entry, log = earlier ++ [entry] →
      d.records = entry.records ∧ d.generation = entry.generation ∧ d.pseudocode = entry.pseudocode ∧
        (renderer.render entry.records (memoryAfter renderer memory earlier)).1 = .ok d.markup

/-- The scheduler is in the state that a book tells of. -/
structure Mirrors (renderer : Renderer σ) (memory : σ) (b : Book) (s : Scheduler σ) : Prop where
  numbered : s.Numbered
  sources : s.tickets.map (·.source) = b.sources
  fired : ∀ g, g ∈ b.fired ↔ s.HasPhase g .fired
  cancelled : ∀ g, g ∈ b.cancelled ↔ s.HasPhase g .cancelled
  remembers : s.memory = memoryAfter renderer memory b.log
  shows : ShowsLast renderer memory b.log s.display

theorem mirrors_start (renderer : Renderer σ) (memory : σ) : Mirrors renderer memory {} (start memory) where
  numbered := rfl
  sources := rfl
  fired := by simp [HasPhase, start]
  cancelled := by simp [HasPhase, start]
  remembers := rfl
  shows := ⟨rfl, by simp⟩

variable {renderer : Renderer σ} {memory : σ} {b : Book} {s : Scheduler σ}

theorem Mirrors.length_sources (mirrors : Mirrors renderer memory b s) : b.sources.length = s.generation := by
  rw [← mirrors.sources, List.length_map, mirrors.numbered.length_tickets]

/-- The book and the scheduler agree on which runs wait, and on their programs. -/
theorem Mirrors.pending?_eq (mirrors : Mirrors renderer memory b s) (generation : Nat) :
    b.pending? generation = (s.waiting? generation).map (·.source) := by
  cases found : s.waiting? generation with
  | some t =>
    obtain ⟨member, named, _⟩ := mirrors.numbered.waiting?_eq_some_iff.mp found
    obtain ⟨positive, place⟩ := mirrors.numbered.getElem?_eq member
    have running (phase : Phase) (stopped : phase ≠ .waiting) : ¬ s.HasPhase generation phase := by
      rintro ⟨u, inTickets, atU, ended⟩
      exact stopped (ended.symm.trans (mirrors.numbered.phase_eq_waiting found inTickets atU))
    have notFired := (mirrors.fired generation).not.mpr (running .fired (by decide))
    have notCancelled := (mirrors.cancelled generation).not.mpr (running .cancelled (by decide))
    have notZero : generation ≠ 0 := by omega
    rw [named] at place
    simp [Book.pending?, notZero, notFired, notCancelled, ← mirrors.sources, place]
  | none =>
    simp only [Book.pending?, Option.map_none]
    split
    · rfl
    · rename_i unended
      rw [not_or, not_or, mirrors.fired, mirrors.cancelled] at unended
      obtain ⟨notZero, notFired, notCancelled⟩ := unended
      rw [List.getElem?_eq_none_iff, mirrors.length_sources]
      by_contra below
      obtain ⟨t, member, named⟩ := mirrors.numbered.mem_iff.mpr ⟨by omega, (by omega : generation ≤ s.generation)⟩
      have stopped := waiting?_eq_none_iff.mp found t member named
      cases phase : t.phase with
      | waiting => exact stopped phase
      | fired => exact notFired ⟨t, member, named, phase⟩
      | cancelled => exact notCancelled ⟨t, member, named, phase⟩

theorem Mirrors.shows_iff (mirrors : Mirrors renderer memory b s) (settings : Settings) (generation : Nat) :
    b.Shows settings.overlapPolicy generation ↔ s.isSuperseded settings generation = false := by
  rw [Bool.eq_false_iff, Ne, mirrors.numbered.isSuperseded_iff, Book.Shows, mirrors.length_sources]
  cases policy : settings.overlapPolicy with
  | lastWriteWins => simp
  | latestOnly =>
    simp only [reduceCtorEq, false_or, true_and]
    constructor
    · rintro all ⟨t, member, newer, live⟩
      have issued := mirrors.numbered.mem_iff.mp ⟨t, member, rfl⟩
      have cancelled := all t.generation (List.mem_range'_1.mpr (by omega)) newer
      obtain ⟨u, inTickets, same, stopped⟩ := (mirrors.cancelled _).mp cancelled
      rw [mirrors.numbered.unique inTickets member same] at stopped
      exact live stopped
    · intro none newer inRange above
      rw [List.mem_range'_1] at inRange
      obtain ⟨t, member, named⟩ := mirrors.numbered.mem_iff.mpr ⟨inRange.1, (by omega : newer ≤ s.generation)⟩
      rw [mirrors.cancelled]
      by_contra live
      exact none ⟨t, member, by omega, fun stopped => live ⟨t, member, named, stopped⟩⟩

theorem ShowsLast.write {log : List Entry} {d : Display} (shows : ShowsLast renderer memory log d) {entry : Entry}
    {markup : Text} {after : σ}
    (shown : renderer.render entry.records (memoryAfter renderer memory log) = (.ok markup, after)) :
    ShowsLast renderer memory (log ++ [entry])
      (d.write entry.records markup entry.pseudocode entry.generation) := by
  refine ⟨by simp [Display.write, shows.1], ?_⟩
  intro earlier last split
  obtain ⟨rfl, same⟩ := List.append_inj' split rfl
  obtain rfl := List.singleton_inj.mp same
  exact ⟨rfl, rfl, rfl, by rw [shown]; rfl⟩

theorem memoryAfter_concat {log : List Entry} {entry : Entry} {markup : Text} {after : σ}
    (shown : renderer.render entry.records (memoryAfter renderer memory log) = (.ok markup, after)) :
    memoryAfter renderer memory (log ++ [entry]) = after := by
  simp only [memoryAfter, List.foldl_append, List.foldl_cons, List.foldl_nil]
  exact congrArg Prod.snd shown

/-- A step that only writes keeps the runs as the book has them. -/
theorem Mirrors.write (mirrors : Mirrors renderer memory b s) {s' : Scheduler σ} {entry : Entry} {markup : Text}
    {after : σ} (shown : renderer.render entry.records s.memory = (.ok markup, after))
    (tickets : s'.tickets = s.tickets) (generation : s'.generation = s.generation) (remembers : s'.memory = after)
    (display : s'.display = s.display.write entry.records markup entry.pseudocode entry.generation) :
    Mirrors renderer memory { b with log := b.log ++ [entry] } s' := by
  rw [mirrors.remembers] at shown
  exact {
    numbered := by simpa only [Numbered, tickets, generation] using mirrors.numbered
    sources := by simpa only [tickets] using mirrors.sources
    fired := by simpa only [HasPhase, tickets] using mirrors.fired
    cancelled := by simpa only [HasPhase, tickets] using mirrors.cancelled
    remembers := by rw [remembers, memoryAfter_concat shown]
    shows := by
      rw [display]
      exact mirrors.shows.write shown }

theorem Mirrors.issue (mirrors : Mirrors renderer memory b s) {s' : Scheduler σ} {source : Text}
    (tickets : s'.tickets = s.tickets ++ [⟨s.generation + 1, source, .waiting⟩])
    (generation : s'.generation = s.generation + 1) (remembers : s'.memory = s.memory)
    (display : s'.display = s.display) :
    Mirrors renderer memory { b with sources := b.sources ++ [source] } s' where
  numbered := mirrors.numbered.issue tickets generation
  sources := by simp [tickets, mirrors.sources]
  fired := by simpa [HasPhase, tickets] using mirrors.fired
  cancelled := by simpa [HasPhase, tickets] using mirrors.cancelled
  remembers := remembers.trans mirrors.remembers
  shows := by simpa only [display] using mirrors.shows

theorem Mirrors.fire (mirrors : Mirrors renderer memory b s) {generation : Nat} {t : Ticket}
    (found : s.waiting? generation = some t) :
    Mirrors renderer memory { b with fired := b.fired ++ [generation] } (s.mark generation .fired) where
  numbered := mirrors.numbered.mark generation .fired
  sources := by rw [map_source_mark, mirrors.sources]
  fired := by simp [mirrors.numbered.hasPhase_mark found, mirrors.fired]
  cancelled := by simp [mirrors.numbered.hasPhase_mark found, mirrors.cancelled]
  remembers := mirrors.remembers
  shows := mirrors.shows

theorem Mirrors.cancel (mirrors : Mirrors renderer memory b s) {generation : Nat} {t : Ticket}
    (found : s.waiting? generation = some t) :
    Mirrors renderer memory { b with cancelled := b.cancelled ++ [generation] } (s.mark generation .cancelled) where
  numbered := mirrors.numbered.mark generation .cancelled
  sources := by rw [map_source_mark, mirrors.sources]
  fired := by simp [mirrors.numbered.hasPhase_mark found, mirrors.fired]
  cancelled := by simp [mirrors.numbered.hasPhase_mark found, mirrors.cancelled]
  remembers := mirrors.remembers
  shows := mirrors.shows

theorem Mirrors.control (mirrors : Mirrors renderer memory b s) (control : Control) :
    Mirrors renderer memory b { s with control } := { mirrors with }

theorem Mirrors.step (mirrors : Mirrors renderer memory b s) {settings : Settings} {s' : Scheduler σ} {e : Event}
    {a : Answer} (never : renderer.NeverFails) (step : Step settings renderer s e a s') :
    Mirrors renderer memory (b.note settings e) s' := by
  cases step with
  | noticed blank shown =>
    simp only [Book.note, blank, if_true]
    exact mirrors.write shown rfl rfl rfl rfl
  | refused blank failed => exact absurd failed never.not_error
  | unscheduled filled failed shown => exact absurd failed never.not_error
  | @issued source markup after filled shown =>
    simp only [Book.note, filled, Bool.false_eq_true, if_false, mirrors.length_sources]
    have placed : Mirrors renderer memory
        { b with log := b.log ++ [⟨[.ofNotice .running], s.generation + 1, []⟩] }
        { s with
          memory := after, display := s.display.write [.ofNotice .running] markup [] (s.generation + 1) } :=
      mirrors.write shown rfl rfl rfl rfl
    exact placed.issue rfl rfl rfl rfl
  | late none =>
    simpa only [Book.note, mirrors.pending?_eq, none, Option.map_none] using mirrors
  | @dropped generation t found superseded =>
    have hidden : ¬ b.Shows settings.overlapPolicy generation := by
      rw [mirrors.shows_iff, superseded]
      decide
    simp only [Book.note, mirrors.pending?_eq, found, Option.map_some, hidden, if_false]
    exact (mirrors.control _).fire found
  | @completed generation t markup after found current shown =>
    have counts : b.Shows settings.overlapPolicy generation :=
      (mirrors.shows_iff settings generation).mpr current
    simp only [Book.note, mirrors.pending?_eq, found, Option.map_some, counts, if_true]
    have placed : Mirrors renderer memory
        { b with log := b.log ++ [⟨Simulation.output t.source, generation,
          (Pseudocode.Program.ofSource settings.indentUnit t.source).text⟩] }
        { s with
          memory := after
          display := s.display.write (Simulation.output t.source) markup
            (Pseudocode.Program.ofSource settings.indentUnit t.source).text generation } :=
      mirrors.write shown rfl rfl rfl rfl
    exact (placed.control _).fire found
  | failed found current failed shown => exact absurd failed never.not_error
  | revoked found =>
    simp only [Book.note, mirrors.pending?_eq, found, Option.map_some]
    exact (mirrors.control _).cancel found
  | gone none =>
    simpa only [Book.note, mirrors.pending?_eq, none, Option.map_none] using mirrors

theorem mirrors_after (settings : Settings) (never : renderer.NeverFails) (memory : σ) (es : List Event) :
    Mirrors renderer memory (.ofEvents settings es) ((start memory).after settings renderer es) := by
  induction es using List.reverseRecOn with
  | nil => exact mirrors_start renderer memory
  | append_singleton es e ih =>
    rw [Book.ofEvents_concat, after_concat]
    exact ih.step never (step_spec rfl)

/-- After every sequence of events the display has been written as often as the log of the events has entries,
and shows the last of them, with the markup that the renderer gave for its records. -/
theorem display_shows_last_entry (settings : Settings) (renderer : Renderer σ) (never : renderer.NeverFails)
    (memory : σ) (es : List Event) :
    let display := ((start memory).after settings renderer es).display
    let log := (Book.ofEvents settings es).log
    display.writes = log.length ∧
      ∀ earlier entry, log = earlier ++ [entry] →
        display.records = entry.records ∧ display.generation = entry.generation ∧
          display.pseudocode = entry.pseudocode ∧
          (renderer.render entry.records (memoryAfter renderer memory earlier)).1 = .ok display.markup :=
  (mirrors_after settings never memory es).shows

theorem panel_neverFails : Renderer.panel.NeverFails := fun _ _ => ⟨_, _, rfl⟩

/-- The newer of two runs is cancelled before the older one fires, so the older one is shown. -/
theorem display_after_newest_cancelled :
    let settings : Settings := { Settings.standard with overlapPolicy := .latestOnly }
    let es : List Event :=
      [.schedule "spill \"a\"".toList, .schedule "spill 'b'".toList, .cancel 2, .fire 1]
    let display := ((start ()).after settings .panel es).display
    Renderer.panel.NeverFails ∧ display.writes = 3 ∧ display.generation = 1 ∧
      display.records = [⟨.plain, ['a']⟩] ∧ display.pseudocode = "print(\"a\")".toList := by
  intro settings es display
  have log : (Book.ofEvents settings es).log =
      [⟨[.ofNotice .running], 1, []⟩, ⟨[.ofNotice .running], 2, []⟩] ++
        [⟨[⟨.plain, ['a']⟩], 1, "print(\"a\")".toList⟩] := by
    decide
  obtain ⟨writes, last⟩ := display_shows_last_entry settings .panel panel_neverFails () es
  obtain ⟨records, generation, pseudocode, _⟩ := last _ _ log
  exact ⟨panel_neverFails, writes.trans (congrArg List.length log), generation, records, pseudocode⟩

end Scheduler

end Playground
