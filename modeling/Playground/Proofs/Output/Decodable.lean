import Mathlib.Data.List.Forall2
import Playground.Proofs.Markup.Unescaped
import Playground.Proofs.Output.Safe

namespace Playground

theorem Markup.escape_injective : Function.Injective escape := by
  intro a b same
  have decoded := unescape_escape a
  rw [same, unescape_escape] at decoded
  exact (Except.ok.inj decoded).symm

/-- The ways in which a record is made of an arbitrary text. -/
inductive Record.Making where
  | text (style : Style) (raw : Text)
  | sentinel (raw : Text)
  | failure (message : Text)

namespace Record.Making

def record : Making → Record
  | text style raw => .ofText style raw
  | sentinel raw => .sentinel raw
  | failure message => .failure message

/-- The text that is escaped. -/
def raw : Making → Text
  | text _ raw => raw
  | sentinel raw => raw
  | failure message => "Error: ".toList ++ message

theorem text_record (m : Making) : m.record.text = Markup.escape m.raw := by cases m <;> rfl

theorem isMade_record (m : Making) : m.record.IsMade := by
  cases m with
  | text style raw => exact ⟨style, raw, rfl⟩
  | sentinel raw => exact ⟨.sentinel, raw, rfl⟩
  | failure message => exact isMade_failure message

end Record.Making

namespace Panel

/-- The only opening part that starts another one is that of plain output: the other one goes on with an element in
the place where the text would stand, and not with the closing part. -/
theorem opening_starts : ∀ w ∈ wrappers, ∀ v ∈ wrappers, w.1 <+: v.1 →
    w = v ∨ (w.1 ++ ['<', 's'] <+: v.1 ∧ ['<', '/'] <+: w.2) := by decide +kernel

theorem opening_ne_nil : ∀ w ∈ wrappers, w.1 ≠ [] := by decide

/-- A closing part is cut in two by its first angle bracket. -/
theorem exists_closing {w : Text × Text} (known : w ∈ wrappers) :
    ∃ front back, w.2 = front ++ '<' :: back ∧ '<' ∉ front := by
  have cut : ∀ w ∈ wrappers,
      w.2 = w.2.takeWhile (· != '<') ++ '<' :: (w.2.dropWhile (· != '<')).tail ∧
        '<' ∉ w.2.takeWhile (· != '<') := by decide +kernel
  exact ⟨_, _, cut w known⟩

variable {w v : Text × Text} {a b t u : Text}

/-- The first place where a character stands cuts a text in only one way. -/
theorem append_cons_inj {c : Char} (notIn : c ∉ a) (notInToo : c ∉ b) (same : a ++ c :: t = b ++ c :: u) :
    a = b ∧ t = u := by
  induction a generalizing b with
  | nil =>
    cases b with
    | nil => exact ⟨rfl, (List.cons.inj same).2⟩
    | cons d b => exact absurd ((List.cons.inj same).1 ▸ List.mem_cons_self) notInToo
  | cons d a ih =>
    cases b with
    | nil => exact absurd ((List.cons.inj same).1 ▸ List.mem_cons_self) notIn
    | cons e b =>
      obtain ⟨rfl, later⟩ := List.cons.inj same
      obtain ⟨rfl, rests⟩ := ih (List.not_mem_of_not_mem_cons notIn) (List.not_mem_of_not_mem_cons notInToo) later
      exact ⟨rfl, rests⟩

theorem eq_of_opening_starts (known : w ∈ wrappers) (knownToo : v ∈ wrappers) (plain : '<' ∉ a)
    (starts : w.1 <+: v.1) (same : w.1 ++ a ++ w.2 ++ t = v.1 ++ b ++ v.2 ++ u) : w = v := by
  rcases opening_starts w known v knownToo starts with equal | ⟨⟨more, opening⟩, ⟨rest, closing⟩⟩
  · exact equal
  · -- The text would end at an element that another wrapper opens and at the closing part at once.
    rw [← opening, ← closing] at same
    simp only [List.append_assoc, List.append_cancel_left_eq] at same
    obtain ⟨_, rests⟩ := append_cons_inj (b := []) plain List.not_mem_nil same
    exact absurd (List.cons.inj rests).1 (by decide)

/-- A wrapped text without angle brackets can be told from what follows it. -/
theorem wrapped_inj (known : w ∈ wrappers) (knownToo : v ∈ wrappers) (plain : '<' ∉ a) (plainToo : '<' ∉ b)
    (same : w.1 ++ a ++ w.2 ++ t = v.1 ++ b ++ v.2 ++ u) : w = v ∧ a = b ∧ t = u := by
  have wrapper : w = v := by
    have front : w.1 <+: v.1 ++ b ++ v.2 ++ u := ⟨a ++ w.2 ++ t, by rw [← same]; simp only [List.append_assoc]⟩
    have frontToo : v.1 <+: v.1 ++ b ++ v.2 ++ u := ⟨b ++ v.2 ++ u, by simp only [List.append_assoc]⟩
    rcases List.prefix_or_prefix_of_prefix front frontToo with starts | starts
    · exact eq_of_opening_starts known knownToo plain starts same
    · exact (eq_of_opening_starts knownToo known plainToo starts same.symm).symm
  subst wrapper
  obtain ⟨before, after, closing, notBefore⟩ := exists_closing known
  rw [closing] at same
  simp only [List.append_assoc, List.append_cancel_left_eq, List.cons_append] at same
  rw [← List.append_assoc, ← List.append_assoc] at same
  have inFront {x : Text} (notIn : '<' ∉ x) : '<' ∉ x ++ before := by
    rw [List.mem_append, not_or]
    exact ⟨notIn, notBefore⟩
  obtain ⟨texts, rests⟩ := append_cons_inj (inFront plain) (inFront plainToo) same
  exact ⟨rfl, List.append_cancel_right texts, List.append_cancel_left rests⟩

/-- Plain output, or a notice that is shown like it. -/
def IsOrdinary (r : Record) : Prop := r.style = .plain ∨ (r.style = .sentinel ∧ r.text ∉ idleTexts)

/-- Records that look alike in the panel: their texts are equal, and so are their styles, unless both are shown as
plain output. -/
structure Alike (r s : Record) : Prop where
  text : r.text = s.text
  style : r.style = s.style ∨ (IsOrdinary r ∧ IsOrdinary s)

/-- What is put around the text of a record. -/
def around (r : Record) : Text × Text := wrapper r.style (idleTexts.contains r.text)

theorem wrapper_eq_iff (style other : Style) (idle : Bool) :
    wrapper style idle = wrapper other idle ↔
      style = other ∨
        ((style = .plain ∨ style = .sentinel ∧ idle = false) ∧ (other = .plain ∨ other = .sentinel ∧ idle = false)) := by
  cases style <;> cases other <;> cases idle <;> decide

theorem around_eq_iff {r s : Record} (text : r.text = s.text) :
    around r = around s ↔ r.style = s.style ∨ (IsOrdinary r ∧ IsOrdinary s) := by
  rw [around, around, IsOrdinary, IsOrdinary, text, wrapper_eq_iff, List.contains_eq_mem, decide_eq_false_iff_not]

theorem ofRecord_eq (r : Record) : ofRecord r = (around r).1 ++ r.text ++ (around r).2 := rfl

theorem around_mem (r : Record) : around r ∈ wrappers := wrapper_mem _ _

theorem Alike.ofRecord_eq {r s : Record} (alike : Alike r s) : ofRecord r = ofRecord s := by
  rw [Panel.ofRecord_eq, Panel.ofRecord_eq, (around_eq_iff alike.text).mpr alike.style, alike.text]

theorem ofRecord_append_inj {r s : Record} (made : r.IsMade) (madeToo : s.IsMade)
    (same : ofRecord r ++ t = ofRecord s ++ u) : Alike r s ∧ t = u := by
  have plain {r : Record} (made : r.IsMade) : '<' ∉ r.text := fun member => (made.isEscaped.plain '<' member).1 rfl
  rw [ofRecord_eq, ofRecord_eq] at same
  obtain ⟨wrappers, texts, rests⟩ := wrapped_inj (around_mem r) (around_mem s) (plain made) (plain madeToo) same
  exact ⟨⟨texts, (around_eq_iff texts).mp wrappers⟩, rests⟩

theorem ofRecords_cons_ne_nil (r : Record) (rs : List Record) : ofRecords (r :: rs) ≠ [] := by
  rw [ofRecords, List.flatMap_cons, ofRecord_eq]
  simp [opening_ne_nil _ (around_mem r)]

theorem ofRecords_eq_iff {first second : List Record} (made : ∀ r ∈ first, r.IsMade) (madeToo : ∀ r ∈ second, r.IsMade) :
    ofRecords first = ofRecords second ↔ List.Forall₂ Alike first second := by
  constructor
  · intro same
    induction first generalizing second with
    | nil =>
      cases second with
      | nil => exact .nil
      | cons s ss => exact absurd same.symm (ofRecords_cons_ne_nil s ss)
    | cons r rs ih =>
      cases second with
      | nil => exact absurd same (ofRecords_cons_ne_nil r rs)
      | cons s ss =>
        rw [List.forall_mem_cons] at made madeToo
        rw [ofRecords, ofRecords, List.flatMap_cons, List.flatMap_cons] at same
        obtain ⟨alike, rests⟩ := ofRecord_append_inj made.1 madeToo.1 same
        exact .cons alike (ih made.2 madeToo.2 rests)
  · intro alike
    induction alike with
    | nil => rfl
    | cons here _ ih =>
      rw [List.forall_mem_cons] at made madeToo
      have later := ih made.2 madeToo.2
      rw [ofRecords, ofRecords] at later
      rw [ofRecords, ofRecords, List.flatMap_cons, List.flatMap_cons, here.ofRecord_eq, later]

/-- Two lists of records, however they are made, have the same panel just if they are equally long and the records in
the same places have equal raw texts, equal texts, and equal styles or both the look of plain output. What a program
prints can therefore add, remove, merge or restyle no record: only lists of records that look alike, one by one, have
the panel of its output. -/
theorem uniquely_decodable :
    (∀ first second : List Record.Making,
      ofRecords (first.map (·.record)) = ofRecords (second.map (·.record)) ↔
        List.Forall₂ (fun a b => a.raw = b.raw ∧ Alike a.record b.record) first second) ∧
    ∀ (source : Text) (others : List Record.Making),
      ofRecords (Simulation.output source) = ofRecords (others.map (·.record)) ↔
        List.Forall₂ Alike (Simulation.output source) (others.map (·.record)) := by
  have made (ms : List Record.Making) : ∀ r ∈ ms.map (·.record), r.IsMade :=
    List.forall_mem_map.mpr fun m _ => m.isMade_record
  constructor
  · intro first second
    have raws {a b : Record.Making} (alike : Alike a.record b.record) : a.raw = b.raw := by
      have texts := alike.text
      rw [a.text_record, b.text_record] at texts
      exact Markup.escape_injective texts
    rw [ofRecords_eq_iff (made first) (made second), List.forall₂_map_left_iff, List.forall₂_map_right_iff]
    exact ⟨.imp fun _ _ alike => ⟨raws alike, alike⟩, .imp fun _ _ alike => alike.2⟩
  · intro source others
    exact ofRecords_eq_iff (Simulation.isMade_output source) (made others)

/-- A literal that imitates the end of its element and another element is still one record. -/
example :
    ofRecords [.ofText .plain "a</div><div class=\"output-line\">b".toList] ≠
      ofRecords [.ofText .plain ['a'], .ofText .plain ['b']] := by
  decide

end Panel

end Playground
