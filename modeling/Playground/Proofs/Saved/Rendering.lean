import Mathlib.Data.List.Perm.Basic
import Playground.Proofs.Output.Safe
import Playground.Proofs.Output.Terminal
import Playground.Proofs.Saved.Lossless
import Playground.Saved.Rendering

namespace Playground.Saved

theorem Record.panel_ofRecord (r : Playground.Record) : (ofRecord r).panel = .ok (Panel.ofRecord r) := by
  simp only [Record.panel, ofRecord, Value.isKey, Value.isDisplayable, Bool.not_true, Bool.and_false,
    Bool.false_eq_true, if_false]
  rfl

theorem panel_map_ofRecord (rs : List Playground.Record) :
    panel (rs.map Record.ofRecord) = .ok (Panel.ofRecords rs) := by
  rw [panel, mapM_map_eq_ok Record.panel_ofRecord]
  rfl

theorem Record.terminal_ofRecord {r : Playground.Record} (made : r.IsMade) :
    (ofRecord r).terminal = .ok (.str (Terminal.ofRecord r)) := by
  obtain ⟨style, raw, rfl⟩ := made
  have decoded : (ofRecord (.ofText style raw)).unescaped = .ok (.str raw) := by
    simp only [unescaped, ofRecord, Playground.Record.ofText, Markup.unescape_escape]
    rfl
  rw [terminal, decoded, Terminal.ofRecord_ofText]
  cases style <;> rfl

theorem terminal_map_ofRecord {rs : List Playground.Record} (made : ∀ r ∈ rs, r.IsMade) :
    terminal (rs.map Record.ofRecord) = .ok (Terminal.ofRecords rs) := by
  have each : (rs.map Record.ofRecord).mapM Record.terminal = .ok (rs.map fun r => .str (Terminal.ofRecord r)) := by
    rw [mapM_eq_ok_iff, List.forall₂_map_left_iff, List.forall₂_map_right_iff, List.forall₂_same]
    exact fun r member => Record.terminal_ofRecord (made r member)
  have shown : rs.map (fun r => Value.str (Terminal.ofRecord r)) = (rs.map Terminal.ofRecord).map .str := by
    rw [List.map_map]
    rfl
  rw [terminal, each, shown]
  exact joinTexts_map_str ['\n'] 0 _

/-- What the panel puts around the text of a saved record. -/
def Record.wrapper (r : Record) : Text × Text :=
  Panel.wrapper r.style (match r.text with
    | .str t => Panel.idleTexts.contains t
    | _ => false)

/-- The record is no notice whose text is a container, and its text holds no integer that is too long to write. -/
def Record.IsShowable (r : Record) : Prop :=
  (r.style = .sentinel → r.text.isKey = true) ∧ r.text.isDisplayable = true

theorem Record.panel_eq_ok_iff {r : Record} {markup : Text} :
    r.panel = .ok markup ↔ r.IsShowable ∧ r.wrapper.1 ++ r.text.inText ++ r.wrapper.2 = markup := by
  rw [Record.panel]
  split
  · next refused =>
    have notice : ¬ (r.style = .sentinel → r.text.isKey = true) := by simp_all
    exact iff_of_false (by simp) fun shown => notice shown.1.1
  · next key =>
    have noContainer : r.style = .sentinel → r.text.isKey = true := by simpa using key
    split
    · next long =>
      rw [Bool.not_eq_true'] at long
      exact iff_of_false (by simp) fun shown => Bool.false_ne_true (long.symm.trans shown.1.2)
    · next short =>
      rw [Bool.not_eq_true', Bool.not_eq_false] at short
      rw [and_iff_right (show r.IsShowable from ⟨noContainer, short⟩), Except.ok.injEq]
      rfl

/-- The panel shows records if all are showable. Then it puts each text, whatever it is, between two fixed texts. -/
theorem panel_eq_ok_iff {rs : List Record} {markup : Text} :
    panel rs = .ok markup ↔ (∀ r ∈ rs, r.IsShowable) ∧
      markup = rs.flatMap fun r => r.wrapper.1 ++ r.text.inText ++ r.wrapper.2 := by
  simp only [panel, bind_eq_ok_iff, mapM_eq_ok_iff, Record.panel_eq_ok_iff, List.forall₂_and_left]
  rw [List.flatMap_def]
  constructor
  · rintro ⟨elements, ⟨showable, each⟩, same⟩
    rw [← List.forall₂_map_left_iff, List.forall₂_eq_eq_eq] at each
    exact ⟨showable, by rw [each]; exact (Except.ok.inj same).symm⟩
  · rintro ⟨showable, rfl⟩
    refine ⟨_, ⟨showable, ?_⟩, rfl⟩
    rw [← List.forall₂_map_left_iff, List.forall₂_eq_eq_eq]

/-- The angle brackets that the panel puts around the texts of records. -/
def wrapperAngles (rs : List Record) : Text :=
  rs.flatMap fun r => (r.wrapper.1 ++ r.wrapper.2).filter Panel.isAngle

/-- The panel shows no other angle brackets than its own exactly if it shows none in a text. -/
theorem filter_isAngle_panel {rs : List Record} {markup : Text} (shown : panel rs = .ok markup) :
    markup.filter Panel.isAngle = wrapperAngles rs ↔ ∀ r ∈ rs, r.text.inText.filter Panel.isAngle = [] := by
  obtain ⟨_, rfl⟩ := panel_eq_ok_iff.mp shown
  rw [List.filter_flatMap]
  constructor
  · intro same
    -- The brackets of the texts put in among those of the wrappers make no difference, so there are none.
    have moved : (wrapperAngles rs ++ rs.flatMap fun r => r.text.inText.filter Panel.isAngle).Perm
        (wrapperAngles rs) := by
      refine (List.flatMap_append_perm rs _ _).trans ?_
      rw [← same]
      refine List.Perm.flatMap_left rs fun r _ => ?_
      simp only [List.filter_append, List.append_assoc]
      exact List.perm_append_comm.append_left _
    have length := moved.length_eq
    rw [List.length_append, Nat.add_eq_left, List.length_eq_zero_iff, List.flatMap_eq_nil_iff] at length
    exact length
  · intro none
    rw [wrapperAngles, List.flatMap_def, List.flatMap_def]
    congr 1
    apply List.map_congr_left
    intro r member
    rw [List.filter_append, List.filter_append, none r member, List.append_nil, List.filter_append]

/-- The style puts a decoration around the text, which holds no integer that is too long to write. -/
def Record.IsDecorated (r : Record) : Prop :=
  r.style ≠ .plain ∧ r.style ≠ .error ∧ r.text.isDisplayable = true

/-- The terminal can join the record to others: its text can be decoded, or it is a container without a lone ampersand
that the style decorates and that holds no integer that is too long to write. -/
def Record.IsLegible (r : Record) : Prop :=
  match r.text with
  | .str t => Markup.IsDecodable t
  | .list vs => .str ['&'] ∉ vs ∧ r.IsDecorated
  | .map entries => .str ['&'] ∉ entries.map (·.1) ∧ r.IsDecorated
  | _ => False

theorem any_same_str_iff {vs : List Value} {t : Text} : (vs.any (·.same (.str t))) = true ↔ .str t ∈ vs := by
  have same (v : Value) : v.same (.str t) = true ↔ v = .str t := by cases v <;> simp [Value.same]
  simp [List.any_eq_true, same]

/-- What a decorating style needs of a value. -/
theorem exists_decorate_iff {style : Style} {v : Value} :
    (∃ t, (if v.isDisplayable then .ok (.str (Terminal.decorate style v.inText)) else .error .tooLongToWrite) =
      (.ok (.str t) : Except Fault Value)) ↔ v.isDisplayable = true := by
  cases v.isDisplayable <;> simp

theorem Record.exists_terminal_iff_unescaped {r : Record} :
    (∃ t, r.terminal = .ok (.str t)) ↔ ∃ v, r.unescaped = .ok v ∧
      ((∃ t, v = .str t) ∨ r.style ≠ .plain ∧ r.style ≠ .error ∧ v.isDisplayable = true) := by
  have displayable {v : Value} : (∃ t, v = .str t) ∨ v.isDisplayable = true ↔ v.isDisplayable = true :=
    or_iff_right_of_imp fun ⟨_, same⟩ => same ▸ rfl
  obtain ⟨style, text⟩ := r
  simp only [Record.terminal, bind_eq_ok_iff]
  rw [exists_comm]
  refine exists_congr fun v => ?_
  rw [exists_and_left]
  refine and_congr_right fun _ => ?_
  cases style with
  | plain => simp
  | error => simp
  | _ => simpa [displayable] using exists_decorate_iff

/-- Of a container only the decoration makes a text. -/
theorem Record.exists_terminal_iff_of_container {r : Record} {lone : Bool} {fault : Fault}
    (container : ∀ t, r.text ≠ .str t) (read : r.unescaped = if lone then .error fault else .ok r.text) :
    (∃ t, r.terminal = .ok (.str t)) ↔ ¬ lone = true ∧ r.IsDecorated := by
  rw [Record.exists_terminal_iff_unescaped, read]
  cases lone with
  | true => simp
  | false => simp [IsDecorated, container]

theorem Record.exists_terminal_iff {r : Record} : (∃ t, r.terminal = .ok (.str t)) ↔ r.IsLegible := by
  obtain ⟨style, v⟩ := r
  cases v with
  | str t =>
    rw [show IsLegible ⟨style, .str t⟩ ↔ Markup.IsDecodable t from Iff.rfl, ← Markup.exists_unescape_iff,
      Record.exists_terminal_iff_unescaped]
    cases decoded : Markup.unescape t with
    | error fault => simp [unescaped, decoded, bind, Except.bind]
    | ok raw => simp [unescaped, decoded, bind, Except.bind, pure, Except.pure]
  | list vs =>
    rw [Record.exists_terminal_iff_of_container (by simp) rfl, any_same_str_iff]
    rfl
  | map entries =>
    have keys : (entries.any fun e => e.1.same (.str ['&'])) = (entries.map (·.1)).any (·.same (.str ['&'])) := by
      rw [List.any_map]
      rfl
    rw [Record.exists_terminal_iff_of_container (by simp) rfl, keys, any_same_str_iff]
    rfl
  | _ => simp [Record.exists_terminal_iff_unescaped, IsLegible, unescaped]

theorem exists_map_eq {α β : Type} {make : α → β} {fits : α → Prop} {bs : List β}
    (each : ∀ b ∈ bs, ∃ a, fits a ∧ make a = b) : ∃ as : List α, (∀ a ∈ as, fits a) ∧ as.map make = bs := by
  induction bs with
  | nil => exact ⟨[], by simp, rfl⟩
  | cons b bs ih =>
    obtain ⟨⟨a, fit, rfl⟩, later⟩ := List.forall_mem_cons.mp each
    obtain ⟨as, all, rfl⟩ := ih later
    exact ⟨a :: as, List.forall_mem_cons.mpr ⟨fit, all⟩, rfl⟩

theorem exists_joinTexts_iff {separator : Text} {position : Nat} {vs : List Value} :
    (∃ t, joinTexts separator position vs = .ok t) ↔ ∀ v ∈ vs, ∃ t, .str t = v := by
  constructor
  · rintro ⟨t, joined⟩
    fun_induction joinTexts separator position vs generalizing t with
    | case1 => simp
    | case2 => simp
    | case3 position u rest other ih =>
      obtain ⟨more, later, _⟩ := bind_eq_ok_iff.mp joined
      exact List.forall_mem_cons.mpr ⟨⟨u, rfl⟩, ih more later⟩
    | case4 => contradiction
  · intro texts
    obtain ⟨ts, _, rfl⟩ := exists_map_eq fun v member => (texts v member).imp fun _ same => ⟨trivial, same⟩
    exact ⟨_, joinTexts_map_str separator position ts⟩

theorem exists_terminal_iff {rs : List Record} : (∃ shown, terminal rs = .ok shown) ↔ ∀ r ∈ rs, r.IsLegible := by
  calc
    (∃ shown, terminal rs = .ok shown) ↔
        ∃ vs, rs.mapM Record.terminal = .ok vs ∧ ∃ shown, joinTexts ['\n'] 0 vs = .ok shown := by
      simp only [terminal, bind_eq_ok_iff]
      exact ⟨fun ⟨shown, vs, each, joined⟩ => ⟨vs, each, shown, joined⟩,
        fun ⟨vs, each, shown, joined⟩ => ⟨shown, vs, each, joined⟩⟩
    _ ↔ ∀ r ∈ rs, ∃ v, r.terminal = .ok v ∧ ∃ t, .str t = v := by
      simp only [exists_joinTexts_iff, exists_mapM_eq_ok_iff]
    _ ↔ ∀ r ∈ rs, r.IsLegible := by
      simp only [← Record.exists_terminal_iff]
      refine forall₂_congr fun r _ => ?_
      exact ⟨fun ⟨_, isLine, t, same⟩ => ⟨t, same ▸ isLine⟩, fun ⟨t, isLine⟩ => ⟨_, isLine, t, rfl⟩⟩

/-- The records that a value holds for a saved run, before they are read. -/
def uncheckedRecords (v : Value) : Except Fault (List Value) := do
  let simulation ← v.lookup "simulation".toList
  (← simulation.lookup "records".toList).items

/-- The records have been made by escaping a text each, the panel shows no other markup than its own, and the terminal
shows them, too. -/
def ShownSafely (rs : List Record) : Prop :=
  ∃ (records : List Playground.Record) (markup shown : Text), rs = records.map .ofRecord ∧
    (∀ r ∈ records, r.IsMade) ∧ panel rs = .ok markup ∧ Panel.Safe records markup ∧ terminal rs = .ok shown

theorem shownSafely_map_ofRecord {records : List Playground.Record} (made : ∀ r ∈ records, r.IsMade) :
    ShownSafely (records.map Record.ofRecord) :=
  ⟨records, Panel.ofRecords records, Terminal.ofRecords records, rfl, made, panel_map_ofRecord records,
    Panel.safe_ofRecords fun r member => (made r member).isEscaped, terminal_map_ofRecord made⟩

theorem shownSafely_iff {rs : List Record} :
    ShownSafely rs ↔ ∀ r ∈ rs, ∃ raw, r.text = .str (Markup.escape raw) := by
  constructor
  · rintro ⟨records, _, _, rfl, made, _⟩ r member
    obtain ⟨record, inRecords, rfl⟩ := List.mem_map.mp member
    obtain ⟨style, raw, rfl⟩ := made record inRecords
    exact ⟨raw, rfl⟩
  · intro escaped
    have each : ∀ r ∈ rs, ∃ record : Playground.Record, record.IsMade ∧ Record.ofRecord record = r := by
      intro r member
      obtain ⟨raw, text⟩ := escaped r member
      exact ⟨.ofText r.style raw, ⟨r.style, raw, rfl⟩, congrArg (Record.mk r.style) text.symm⟩
    obtain ⟨records, made, rfl⟩ := exists_map_eq each
    exact shownSafely_map_ofRecord made

/-- What is read of the records of a run: a style that is named, and a text that is whatever stands there. -/
theorem Run.records_of_ofValue {v : Value} {r : Run} (read : Run.ofValue v = .ok r) :
    ∃ items, uncheckedRecords v = .ok items ∧
      items.mapM (·.lookup "style".toList) = .ok (r.records.map fun record => .str record.style.name.toList) ∧
      items.mapM (·.lookup "text".toList) = .ok (r.records.map (·.text)) := by
  obtain ⟨simulation, simulated, fromSimulation⟩ := Run.of_ofValue read
  obtain ⟨records, items, listed, found, each⟩ := of_readRecords fromSimulation
  simp only [mapM_eq_ok_iff, Record.ofValue_eq_ok_iff] at each
  simp only [mapM_eq_ok_iff, List.forall₂_map_right_iff]
  refine ⟨items, ?_, each.imp fun _ _ parts => parts.1, each.imp fun _ _ parts => parts.2⟩
  simp only [uncheckedRecords, bind_eq_ok_iff]
  exact ⟨simulation, simulated, records, listed, found⟩

/-- A run that is read holds the texts of its records as they stand in the value, whatever they are. It is shown safely
exactly if all of them have been escaped, as they have in a run that a program text gave. Otherwise the panel shows it if
all records are showable, and shows other angle brackets than its own as soon as a text has one; the terminal shows it if
all records are legible. -/
theorem Run.shown_as_read {v : Value} {r : Run} (read : Run.ofValue v = .ok r) :
    (∃ items, uncheckedRecords v = .ok items ∧
      items.mapM (·.lookup "text".toList) = .ok (r.records.map (·.text))) ∧
      (ShownSafely r.records ↔ ∀ record ∈ r.records, ∃ t, record.text = .str t ∧ Markup.IsEscaped t) ∧
      (∀ indentUnit source, r = .ofRun (.ofSource indentUnit source) → ShownSafely r.records) ∧
      ((∃ markup, panel r.records = .ok markup) ↔ ∀ record ∈ r.records, record.IsShowable) ∧
      (∀ markup, panel r.records = .ok markup → (markup.filter Panel.isAngle = wrapperAngles r.records ↔
        ∀ record ∈ r.records, record.text.inText.filter Panel.isAngle = [])) ∧
      ((∃ shown, terminal r.records = .ok shown) ↔ ∀ record ∈ r.records, record.IsLegible) := by
  obtain ⟨items, unchecked, _, texts⟩ := Run.records_of_ofValue read
  refine ⟨⟨items, unchecked, texts⟩, ?_, ?_, ?_, fun markup shown => filter_isAngle_panel shown, exists_terminal_iff⟩
  · rw [shownSafely_iff]
    refine forall₂_congr fun record _ => ?_
    simp only [Markup.isEscaped_iff]
    constructor
    · rintro ⟨raw, text⟩
      exact ⟨_, text, raw, rfl⟩
    · rintro ⟨_, text, raw, rfl⟩
      exact ⟨raw, text⟩
  · rintro indentUnit source rfl
    exact shownSafely_map_ofRecord (Simulation.isMade_output source)
  · simp only [panel_eq_ok_iff]
    exact ⟨fun ⟨_, showable, _⟩ => showable, fun showable => ⟨_, showable, rfl⟩⟩

/-- A saved run of a single record with some text, and of nothing else. -/
def single (style : Style) (text : Value) : Value :=
  .map [(.str "simulation".toList, .map [(.str "records".toList,
    .list [.map [(.str "style".toList, .str style.name.toList), (.str "text".toList, text)]])])]

/-- What is read of it. -/
def singleRun (style : Style) (text : Value) : Run := ⟨.str [], ⟨[], .int 0⟩, [⟨style, text⟩]⟩

/-- There is no value that is refused as a text. -/
theorem Run.ofValue_single (style : Style) (text : Value) :
    Run.ofValue (single style text) = .ok (singleRun style text) := by
  cases style <;> rfl

/-- An element that was never escaped is read, and shown as an element. Where there is a number for a text, or a reference
with too many digits in it, the terminal shows nothing. -/
theorem Run.shown_as_read_unescaped :
    let element := singleRun .plain (.str "<b>".toList)
    let number := singleRun .plain (.int 5)
    let reference := singleRun .glow (.str ('&' :: '#' :: List.replicate 4301 '0'))
    Run.ofValue (single .plain (.str "<b>".toList)) = .ok element ∧ ¬ ShownSafely element.records ∧
      panel element.records = .ok "<div class=\"output-line\"><b></div>".toList ∧
      Run.ofValue (single .plain (.int 5)) = .ok number ∧ ¬ ShownSafely number.records ∧
      (¬ ∃ shown, terminal number.records = .ok shown) ∧
      Run.ofValue (single .glow (.str ('&' :: '#' :: List.replicate 4301 '0'))) = .ok reference ∧
      ¬ ∃ shown, terminal reference.records = .ok shown := by
  intro element number reference
  have elementRead : Run.ofValue (single .plain (.str "<b>".toList)) = .ok element := Run.ofValue_single ..
  have numberRead : Run.ofValue (single .plain (.int 5)) = .ok number := Run.ofValue_single ..
  have referenceRead : Run.ofValue (single .glow (.str ('&' :: '#' :: List.replicate 4301 '0'))) = .ok reference :=
    Run.ofValue_single ..
  obtain ⟨_, safe, _⟩ := Run.shown_as_read elementRead
  obtain ⟨_, safeNumber, _, _, _, legible⟩ := Run.shown_as_read numberRead
  obtain ⟨_, _, _, _, _, legibleReference⟩ := Run.shown_as_read referenceRead
  refine ⟨elementRead, ?_, rfl, numberRead, ?_, ?_, referenceRead, ?_⟩
  · rw [safe]
    intro escaped
    obtain ⟨t, text, escaped⟩ := escaped ⟨.plain, .str "<b>".toList⟩ List.mem_cons_self
    obtain rfl := Value.str.inj text
    exact (escaped.plain '<' (by decide)).1 rfl
  · rw [safeNumber]
    intro escaped
    obtain ⟨t, text, _⟩ := escaped ⟨.plain, .int 5⟩ List.mem_cons_self
    contradiction
  · rw [legible]
    intro all
    exact all ⟨.plain, .int 5⟩ List.mem_cons_self
  · rw [legibleReference]
    intro all
    have decodable : Markup.IsDecodable ('&' :: '#' :: List.replicate 4301 '0') := all _ List.mem_cons_self
    have few := decodable [] (List.replicate 4301 '0') rfl
    rw [List.takeWhile_replicate, if_pos (by decide), List.length_replicate] at few
    exact absurd few (by decide)

end Playground.Saved
