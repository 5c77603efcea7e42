import Playground.Proofs.Json.Displayable
import Playground.Proofs.Saved.Reading
import Playground.Saved.Export

namespace Playground

namespace Value

theorem isForeseen_of_lookup {v : Value} {key : Text} {fault : Fault} (failed : v.lookup key = .error fault) :
    Saved.isForeseen fault = true := by
  cases v with
  | map entries =>
    rw [lookup] at failed
    cases under : field? key entries with
    | none =>
      rw [under] at failed
      obtain rfl := Except.error.inj failed
      rfl
    | some w => simp [under] at failed
  | _ =>
    obtain rfl := Except.error.inj failed
    rfl

/-- A value of which a text key can be looked up is a mapping, so a key with a default is looked up, too. -/
theorem exists_lookupD {v found : Value} {key : Text} (lookup : v.lookup key = .ok found) (other : Text)
    (default : Value) : ∃ value, v.lookupD other default = .ok value := by
  obtain ⟨entries, rfl, _⟩ := lookup_eq_ok_iff.mp lookup
  exact ⟨_, rfl⟩

/-- The value is a float that is infinite. -/
def IsInfinite (v : Value) : Prop := ∃ x negative, v = .float x ∧ Decimal.Parts.ofFloat x = .infinite negative

theorem toInteger_of_isInfinite {v : Value} (infinite : v.IsInfinite) : v.toInteger = .error .infiniteToInteger := by
  obtain ⟨x, negative, rfl, parts⟩ := infinite
  rw [toInteger, parts]

/-- The only fault of reading an integer that is not foreseen is that of an infinity. -/
theorem isForeseen_of_toInteger {v : Value} {fault : Fault} (failed : v.toInteger = .error fault)
    (finite : ¬ v.IsInfinite) : Saved.isForeseen fault = true := by
  cases v with
  | bool | int => simp [toInteger] at failed
  | float x =>
    rw [toInteger] at failed
    cases parts : Decimal.Parts.ofFloat x with
    | nan =>
      rw [parts] at failed
      obtain rfl := Except.error.inj failed
      rfl
    | infinite negative => exact absurd ⟨x, negative, rfl, parts⟩ finite
    | finite => simp [parts] at failed
  | str t =>
    rw [toInteger] at failed
    cases read : Decimal.readInteger t with
    | ok => simp [read] at failed
    | error cause =>
      rw [read] at failed
      cases cause with
      | malformed | tooManyDigits =>
        obtain rfl := Except.error.inj failed
        rfl
  | _ =>
    obtain rfl := Except.error.inj failed
    rfl

end Value

namespace Saved

theorem reportAs_eq_error_iff {α : Type} {error : Value → Fault → Error} {v : Value} {x : Except Fault α}
    {e : Error} :
    reportAs error v x = .error e ↔
      ∃ fault, x = .error fault ∧ e = if isForeseen fault = true then .naming error v fault else .unchecked fault := by
  cases x with
  | ok => simp [reportAs]
  | error fault =>
    simp only [reportAs, Except.error.injEq, exists_eq_left']
    exact eq_comm

theorem readName_eq_error_iff {α : Type} {ofName? : Text → Option α} {family : String} {v : Value} {fault : Fault} :
    readName ofName? family v = .error fault ↔
      (∀ a, readName ofName? family v ≠ .ok a) ∧ fault = .notMember v family := by
  cases v with
  | str t =>
    rw [readName]
    cases ofName? t <;> simp [eq_comm]
  | _ => simp [readName, eq_comm]

theorem readStyle_eq_error_iff {v : Value} {fault : Fault} :
    readStyle v = .error fault ↔ (∀ s : Style, v ≠ .str s.name.toList) ∧ fault = .notMember v "OutputStyle" :=
  readName_eq_error_iff.trans (and_congr_left' (forall_congr' fun _ => not_congr readStyle_eq_ok_iff))

theorem readCategory_eq_error_iff {v : Value} {fault : Fault} :
    readCategory v = .error fault ↔ (∀ c : Category, v ≠ .str c.name.toList) ∧ fault = .notMember v "Category" :=
  readName_eq_error_iff.trans (and_congr_left' (forall_congr' fun _ => not_congr readCategory_eq_ok_iff))

/-- What keeps a value from being a saved record. Its parts are looked at in order, and the first fault counts. -/
inductive Record.Fails (v : Value) : Fault → Prop
  | noStyle {fault : Fault} : v.lookup "style".toList = .error fault → Fails v fault
  | badStyle {style : Value} :
      v.lookup "style".toList = .ok style → (∀ s : Style, style ≠ .str s.name.toList) →
      Fails v (.notMember style "OutputStyle")
  | noText {s : Style} {fault : Fault} :
      v.lookup "style".toList = .ok (.str s.name.toList) → v.lookup "text".toList = .error fault → Fails v fault

theorem Record.Fails.isForeseen {v : Value} {fault : Fault} (fails : Record.Fails v fault) :
    isForeseen fault = true := by
  cases fails with
  | noStyle failed => exact Value.isForeseen_of_lookup failed
  | badStyle => rfl
  | noText _ failed => exact Value.isForeseen_of_lookup failed

/-- A value is refused as a record exactly if something keeps it from being one, and the fault is reported. -/
theorem Record.ofValue_eq_error_iff {v : Value} {e : Error} :
    Record.ofValue v = .error e ↔ ∃ fault, Record.Fails v fault ∧ e = .naming .badRecord v fault := by
  simp only [Record.ofValue, reportAs_eq_error_iff, bind_eq_error_iff, readStyle_eq_error_iff, readStyle_eq_ok_iff]
  constructor
  · rintro ⟨fault, failed, rfl⟩
    have fails : Record.Fails v fault := by
      rcases failed with noStyle | ⟨_, found, ⟨badStyle, rfl⟩ | ⟨s, rfl, noText | ⟨_, _, ⟨⟩⟩⟩⟩
      · exact .noStyle noStyle
      · exact .badStyle found badStyle
      · exact .noText found noText
    exact ⟨fault, fails, if_pos fails.isForeseen⟩
  · rintro ⟨fault, fails, rfl⟩
    refine ⟨fault, ?_, (if_pos fails.isForeseen).symm⟩
    cases fails with
    | noStyle noStyle => exact Or.inl noStyle
    | badStyle found badStyle => exact Or.inr ⟨_, found, Or.inl ⟨badStyle, rfl⟩⟩
    | noText found noText => exact Or.inr ⟨_, found, Or.inr ⟨_, rfl, Or.inl noText⟩⟩

/-- What keeps a value from being a saved line. Its parts are looked at in order, and the first fault counts. The
text may be absent. -/
inductive Line.Fails (v : Value) : Fault → Prop
  | noCategory {fault : Fault} : v.lookup "category".toList = .error fault → Fails v fault
  | badCategory {category : Value} :
      v.lookup "category".toList = .ok category → (∀ c : Category, category ≠ .str c.name.toList) →
      Fails v (.notMember category "Category")
  | noDepth {c : Category} {fault : Fault} :
      v.lookup "category".toList = .ok (.str c.name.toList) → v.lookup "depth".toList = .error fault → Fails v fault
  | badDepth {c : Category} {depth : Value} {fault : Fault} :
      v.lookup "category".toList = .ok (.str c.name.toList) → v.lookup "depth".toList = .ok depth →
      depth.toInteger = .error fault → Fails v fault

/-- The value has a category, and a depth that is an infinity. -/
def Line.HasInfiniteDepth (v : Value) : Prop :=
  ∃ (c : Category) (depth : Value), v.lookup "category".toList = .ok (.str c.name.toList) ∧
    v.lookup "depth".toList = .ok depth ∧ depth.IsInfinite

theorem Line.Fails.isForeseen {v : Value} {fault : Fault} (fails : Line.Fails v fault)
    (finite : ¬ Line.HasInfiniteDepth v) : isForeseen fault = true := by
  cases fails with
  | noCategory failed => exact Value.isForeseen_of_lookup failed
  | badCategory => rfl
  | noDepth _ failed => exact Value.isForeseen_of_lookup failed
  | badDepth named found failed =>
    exact Value.isForeseen_of_toInteger failed fun infinite => finite ⟨_, _, named, found, infinite⟩

/-- A value is refused as a line exactly if something keeps it from being one. The text is no hindrance. -/
theorem Line.ofValue_eq_error_iff {v : Value} {e : Error} :
    Line.ofValue v = .error e ↔ ∃ fault, Line.Fails v fault ∧
      e = if isForeseen fault = true then .naming .badLine v fault else .unchecked fault := by
  simp only [Line.ofValue, reportAs_eq_error_iff, bind_eq_error_iff, readCategory_eq_error_iff,
    readCategory_eq_ok_iff]
  refine exists_congr fun fault => and_congr_left' ?_
  constructor
  · rintro (noCategory | ⟨_, named, ⟨badCategory, rfl⟩ | ⟨c, rfl, noDepth | ⟨depth, found, badDepth | rest⟩⟩⟩)
    · exact .noCategory noCategory
    · exact .badCategory named badCategory
    · exact .noDepth named noDepth
    · exact .badDepth named found badDepth
    · -- By now the value is known to be a mapping, in which a text can always be looked up.
      obtain ⟨_, _, noText | ⟨_, _, ⟨⟩⟩⟩ := rest
      obtain ⟨text, under⟩ := Value.exists_lookupD named "text".toList .null
      rw [under] at noText
      contradiction
  · intro fails
    cases fails with
    | noCategory noCategory => exact Or.inl noCategory
    | badCategory named badCategory => exact Or.inr ⟨_, named, Or.inl ⟨badCategory, rfl⟩⟩
    | noDepth named noDepth => exact Or.inr ⟨_, named, Or.inr ⟨_, rfl, Or.inl noDepth⟩⟩
    | badDepth named found badDepth =>
      exact Or.inr ⟨_, named, Or.inr ⟨_, rfl, Or.inr ⟨_, found, Or.inl badDepth⟩⟩⟩

/-- Where a value is no saved record or line, the reader names it and its first fault. Only two things get in the way:
an infinite depth, whose fault comes through as it is, and an integer too long to be displayed, which no JSON text
writes. What is read as a line has a category by its name, and a depth that stands for an integer. -/
theorem element_faults_reported_unless_infinite (v : Value) :
    (∀ t, Json.parse t = .ok v → v.isDisplayable = true) ∧
      (∀ e, Record.ofValue v = .error e ↔ ∃ fault, Record.Fails v fault ∧
        e = if v.isDisplayable = true then .badRecord v fault else .unchecked .tooLongToWrite) ∧
      (¬ Line.HasInfiniteDepth v → ∀ e, Line.ofValue v = .error e ↔ ∃ fault, Line.Fails v fault ∧
        e = if v.isDisplayable = true then .badLine v fault else .unchecked .tooLongToWrite) ∧
      (Line.HasInfiniteDepth v → Line.ofValue v = .error (.unchecked .infiniteToInteger)) ∧
      (∀ l, Line.ofValue v = .ok l ↔
        v.lookup "category".toList = .ok (.str l.category.name.toList) ∧
          (∃ depth, v.lookup "depth".toList = .ok depth ∧ depth.toInteger = .ok l.depth) ∧
          v.lookupD "text".toList .null = .ok l.text) := by
  refine ⟨fun t => Json.isDisplayable_of_parse, fun e => Record.ofValue_eq_error_iff, ?finite, ?infinite,
    fun l => Line.ofValue_eq_ok_iff⟩
  case finite =>
    intro finite e
    rw [Line.ofValue_eq_error_iff]
    refine exists_congr fun fault => and_congr_right fun fails => ?_
    rw [if_pos (fails.isForeseen finite), Error.naming]
  case infinite =>
    intro infinite
    obtain ⟨c, depth, named, found, isInfinite⟩ := infinite
    rw [Line.ofValue_eq_error_iff]
    exact ⟨_, .badDepth named found (Value.toInteger_of_isInfinite isInfinite), rfl⟩

/-- A line with a depth, and no text. -/
def Line.atDepth (depth : Float) : Value :=
  entries [("category", .str "fallback".toList), ("depth", .float depth)]

/-- An infinite depth comes through unreported. One that is not a number is reported with the line. -/
theorem element_faults_reported_unless_infinite_not_a_number :
    Line.HasInfiniteDepth (Line.atDepth (1.0 / 0.0)) ∧
      Line.ofValue (Line.atDepth (1.0 / 0.0)) = .error (.unchecked .infiniteToInteger) ∧
      ¬ Line.HasInfiniteDepth (Line.atDepth (0.0 / 0.0)) ∧
      Line.ofValue (Line.atDepth (0.0 / 0.0)) = .error (.badLine (Line.atDepth (0.0 / 0.0)) .nanToInteger) := by
  have category (depth : Float) :
      (Line.atDepth depth).lookup "category".toList = .ok (.str Category.fallback.name.toList) := rfl
  have under (depth : Float) : (Line.atDepth depth).lookup "depth".toList = .ok (.float depth) := by
    simp [Line.atDepth, entries, Value.lookup, Value.field?]
  have infinity : Decimal.Parts.ofFloat (1.0 / 0.0) = .infinite false := by decide +kernel
  have nan : Decimal.Parts.ofFloat (0.0 / 0.0) = .nan := by decide +kernel
  have infinite : Line.HasInfiniteDepth (Line.atDepth (1.0 / 0.0)) :=
    ⟨.fallback, _, category _, under _, _, _, rfl, infinity⟩
  have finite : ¬ Line.HasInfiniteDepth (Line.atDepth (0.0 / 0.0)) := by
    rintro ⟨_, depth, _, found, x, negative, rfl, parts⟩
    rw [under] at found
    obtain rfl := Value.float.inj (Except.ok.inj found)
    rw [nan] at parts
    contradiction
  have notANumber : (Value.float (0.0 / 0.0)).toInteger = .error .nanToInteger := by
    rw [Value.toInteger, nan]
  obtain ⟨_, _, _, unreported, _⟩ := element_faults_reported_unless_infinite (Line.atDepth (1.0 / 0.0))
  obtain ⟨_, _, reported, _, _⟩ := element_faults_reported_unless_infinite (Line.atDepth (0.0 / 0.0))
  refine ⟨infinite, unreported infinite, finite, (reported finite _).mpr ?_⟩
  exact ⟨.nanToInteger, .badDepth (category _) (under _) notANumber, (if_pos rfl).symm⟩

end Saved

end Playground
