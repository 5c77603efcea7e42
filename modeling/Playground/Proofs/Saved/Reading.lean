import Playground.Proofs.Value.Entries
import Playground.Proofs.Value.Steps
import Playground.Saved.Reading

namespace Playground.Saved

theorem reportAs_eq_ok_iff {α : Type} {error : Value → Fault → Error} {v : Value} {x : Except Fault α} {a : α} :
    reportAs error v x = .ok a ↔ x = .ok a := by
  cases x <;> simp [reportAs]

theorem unforeseen_eq_ok_iff {α : Type} {x : Except Fault α} {a : α} : unforeseen x = .ok a ↔ x = .ok a := by
  cases x <;> simp [unforeseen]

theorem readName_eq_ok_iff {α : Type} {ofName? : Text → Option α} {family : String} {v : Value} {a : α} :
    readName ofName? family v = .ok a ↔ ∃ t, v = .str t ∧ ofName? t = some a := by
  cases v with
  | str t =>
    simp only [readName, Value.str.injEq, exists_eq_left']
    cases ofName? t <;> simp
  | _ => simp [readName]

theorem readStyle_eq_ok_iff {v : Value} {s : Style} : readStyle v = .ok s ↔ v = .str s.name.toList := by
  simp only [readStyle, readName_eq_ok_iff, Style.ofName?_eq_some_iff, exists_eq_right]

theorem readCategory_eq_ok_iff {v : Value} {c : Category} : readCategory v = .ok c ↔ v = .str c.name.toList := by
  simp only [readCategory, readName_eq_ok_iff, Category.ofName?_eq_some_iff, exists_eq_right]

/-- A record is read where a style is named and there is a text, which is taken as it is. -/
theorem Record.ofValue_eq_ok_iff {v : Value} {r : Record} :
    Record.ofValue v = .ok r ↔
      v.lookup "style".toList = .ok (.str r.style.name.toList) ∧ v.lookup "text".toList = .ok r.text := by
  simp only [Record.ofValue, reportAs_eq_ok_iff, bind_eq_ok_iff, readStyle_eq_ok_iff]
  constructor
  · rintro ⟨_, named, style, rfl, text, found, same⟩
    obtain rfl := Except.ok.inj same
    exact ⟨named, found⟩
  · rintro ⟨named, found⟩
    exact ⟨_, named, r.style, rfl, r.text, found, rfl⟩

theorem Record.ofValue_of_lookup {v : Value} {r : Record}
    (style : v.lookup "style".toList = .ok (.str r.style.name.toList))
    (text : v.lookup "text".toList = .ok r.text) : Record.ofValue v = .ok r :=
  Record.ofValue_eq_ok_iff.mpr ⟨style, text⟩

/-- A line is read where a category is named and the depth stands for an integer. The text may be absent. -/
theorem Line.ofValue_eq_ok_iff {v : Value} {l : Line} :
    Line.ofValue v = .ok l ↔
      v.lookup "category".toList = .ok (.str l.category.name.toList) ∧
        (∃ depth, v.lookup "depth".toList = .ok depth ∧ depth.toInteger = .ok l.depth) ∧
        v.lookupD "text".toList .null = .ok l.text := by
  simp only [Line.ofValue, reportAs_eq_ok_iff, bind_eq_ok_iff, readCategory_eq_ok_iff]
  constructor
  · rintro ⟨_, named, category, rfl, depth, found, n, whole, text, under, same⟩
    obtain rfl := Except.ok.inj same
    exact ⟨named, ⟨depth, found, whole⟩, under⟩
  · rintro ⟨named, ⟨depth, found, whole⟩, under⟩
    exact ⟨_, named, l.category, rfl, depth, found, l.depth, whole, l.text, under, rfl⟩

theorem Line.ofValue_of_lookup {v : Value} {l : Line}
    (category : v.lookup "category".toList = .ok (.str l.category.name.toList))
    (depth : v.lookup "depth".toList = .ok (.int l.depth))
    (text : v.lookup "text".toList = .ok l.text) : Line.ofValue v = .ok l :=
  Line.ofValue_eq_ok_iff.mpr ⟨category, ⟨_, depth, rfl⟩, Value.lookupD_of_lookup text .null⟩

theorem Program.ofValue_of_lookup {v : Value} {p : Program} {ws : List Value}
    (lines : v.lookup "lines".toList = .ok (.list ws)) (each : ws.mapM Line.ofValue = .ok p.lines)
    (finalDepth : v.lookup "final_depth".toList = .ok p.finalDepth) : Program.ofValue v = .ok p := by
  simp only [Program.ofValue, Value.lookupD_of_lookup lines, Value.lookupD_of_lookup finalDepth, Value.items,
    unforeseen, each, bind, Except.bind]
  rfl

theorem readRecords_of_lookup {v : Value} {rs : List Record} {ws : List Value}
    (records : v.lookup "records".toList = .ok (.list ws)) (each : ws.mapM Record.ofValue = .ok rs)
    (some : rs ≠ []) : readRecords v = .ok rs := by
  obtain ⟨entries, rfl, under⟩ := Value.lookup_eq_ok_iff.mp records
  have listed : (Value.list ws).isSome = true := by
    cases ws with
    | nil => exact absurd (Except.ok.inj each).symm some
    | cons w ws => rfl
  simp only [readRecords, under, Option.getD_some, listed, if_true, Value.items, unforeseen, each, bind,
    Except.bind]

theorem of_readRecords {v : Value} {rs : List Record} (read : readRecords v = .ok rs) :
    ∃ records items, v.lookup "records".toList = .ok records ∧ records.items = .ok items ∧
      items.mapM Record.ofValue = .ok rs := by
  cases v with
  | map entries =>
    simp only [readRecords] at read
    split at read
    · rename_i listed
      cases under : Value.field? "records".toList entries with
      | none =>
        rw [under] at listed
        contradiction
      | some records =>
        rw [under, Option.getD_some] at read
        obtain ⟨items, found, each⟩ := bind_eq_ok_iff.mp read
        exact ⟨records, items, Value.lookup_eq_ok_iff.mpr ⟨entries, rfl, under⟩, unforeseen_eq_ok_iff.mp found, each⟩
    · contradiction
  | _ => contradiction

/-- The records of a run are read from what stands under `simulation`, which cannot be absent. -/
theorem Run.of_ofValue {v : Value} {r : Run} (read : Run.ofValue v = .ok r) :
    ∃ simulation, v.lookup "simulation".toList = .ok simulation ∧ readRecords simulation = .ok r.records := by
  simp only [Run.ofValue, bind_eq_ok_iff, unforeseen_eq_ok_iff] at read
  obtain ⟨source, _, transpiled, _, program, _, simulation, found, records, fromSimulation, same⟩ := read
  obtain rfl := Except.ok.inj same
  refine ⟨simulation, Value.lookup_of_lookupD found ?_, fromSimulation⟩
  rintro rfl
  contradiction

theorem Run.ofValue_of_lookup {v program simulation : Value} {r : Run}
    (source : v.lookup "source".toList = .ok r.source)
    (transpiled : v.lookup "transpiled".toList = .ok program) (lines : Program.ofValue program = .ok r.program)
    (simulated : v.lookup "simulation".toList = .ok simulation)
    (records : readRecords simulation = .ok r.records) : Run.ofValue v = .ok r := by
  simp only [Run.ofValue, Value.lookupD_of_lookup source, Value.lookupD_of_lookup transpiled,
    Value.lookupD_of_lookup simulated, unforeseen, bind, Except.bind, lines, records]
  rfl

end Playground.Saved
