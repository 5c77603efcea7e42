import Mathlib.Data.List.TakeWhile
import Playground.CommandLine.Basic
import Playground.Proofs.Decimal.Digits
import Playground.Proofs.Session.Rotation

namespace Playground

namespace CommandLine

variable {settings : Settings} {k : Nat} {s : Session}

/-- The texts and reports of `count` loads, when `k` examples have been loaded before. -/
theorem showExamples_eq (loaded : s.HasLoaded settings k) (count : Nat) :
    showExamples count s =
      (Text.joinWith ['\n'] ((List.range' k count).map fun i => printed (settings.rotating i)),
        (List.range' k count).map fun i =>
          .exampleLoaded (i % settings.examples.length + 1) settings.examples.length) := by
  fun_induction showExamples count s generalizing k with
  | case1 s => rfl
  | case2 s =>
    rw [loaded.current, loaded.loading]
    rfl
  | case3 s count text entries later ih =>
    obtain ⟨rfl, rfl⟩ := Prod.mk.inj (later.symm.trans (ih loaded.advance))
    rw [loaded.current, loaded.loading]
    simp only [List.range'_succ, List.map_cons, Text.joinWith, List.append_assoc, printed, List.nil_append]

theorem isNegativeNumber_minus (n : Nat) : isNegativeNumber ('-' :: Text.ofNat n) = true := by
  have digits : ∀ c ∈ Text.ofNat n, (Text.digitValue? c).isSome = true := by
    intro c member
    rw [Text.digitValue?_of_isDigit (Text.isDigit_of_mem_ofNat member)]
    rfl
  have noBreak : (Text.ofNat n).getLast? ≠ some '\n' := by
    intro ends
    exact absurd (Text.isDigit_of_mem_ofNat (List.mem_of_getLast? ends)) (by decide)
  have none : (Text.ofNat n).dropWhile (fun c => (Text.digitValue? c).isSome) = [] := List.dropWhile_eq_nil_iff.mpr digits
  simp [isNegativeNumber, noBreak, none, Text.ofNat_ne_nil]

theorem ofNat_ne_dash {n : Nat} {rest : Text} : Text.ofNat n ≠ '-' :: rest := by
  intro same
  exact absurd (Text.isDigit_of_mem_ofNat (same ▸ List.mem_cons_self)) (by decide)

/-- An integer is a value and no option, also with a minus sign. -/
theorem ofText_ofInt (n : Int) : Word.ofText [countOpt] (Text.ofInt n) = .operand := by
  cases n with
  | ofNat n =>
    rw [Text.ofInt, Word.ofText]
    · exact fun _ => ofNat_ne_dash
    · exact fun _ _ => ofNat_ne_dash
  | negSucc n =>
    have negative := isNegativeNumber_minus (n + 1)
    obtain ⟨c, rest, digits⟩ := List.exists_cons_of_ne_nil (Text.ofNat_ne_nil (n + 1))
    rw [digits] at negative
    have noLetter : [countOpt].any (·.letter == some c) = false := rfl
    rw [Text.ofInt, digits, Word.ofText]
    · rw [noLetter, negative]
      rfl
    · rintro rfl
      exact ofNat_ne_dash digits

theorem takeValue_ofInt (n : Int) : takeValue [countOpt] [Text.ofInt n] = some (Text.ofInt n, []) := by
  have notDivider : (Text.ofInt n == divider) = false := by
    rw [beq_eq_false_iff_ne]
    cases n with
    | ofNat n => exact ofNat_ne_dash
    | negSucc n => exact fun same => ofNat_ne_dash (List.cons.inj same).2
  rw [takeValue, ofText_ofInt, notDivider]
  rfl

/-- A number of examples is understood unless it has too many digits. -/
theorem ofTexts?_examples (n : Int) :
    Command.ofTexts? "example".toList ["--count".toList, Text.ofInt n] =
      if Decimal.IsShort n then some (.examples n) else none := by
  have collected : collect [countOpt] 3 0 ["--count".toList, Text.ofInt n] = some ([(countOpt, Text.ofInt n)], []) := by
    have word : Word.ofText [countOpt] "--count".toList = .named countOpt none := rfl
    have notDivider : ("--count".toList == divider) = false := rfl
    have takes : countOpt.takesValue = true := rfl
    rw [collect, word, notDivider]
    simp [takes, takeValue_ofInt, collect]
  have name : String.ofList "example".toList = "example" := rfl
  rw [Command.ofTexts?, name]
  simp only [List.length_cons, List.length_nil, collected]
  by_cases short : Decimal.IsShort n
  · simp [Decimal.readInteger_ofInt, short, Except.toOption]
  · simp [Decimal.readInteger_ofInt, short, Except.toOption]

theorem read_settings (name : Text) (verbose : Bool) (settings : Option Text) (fuel : Nat) (rest : List Text) :
    Arguments.read settings verbose (fuel + 1) (("--config=".toList ++ name) :: rest) =
      Arguments.read (some name) verbose fuel rest := by
  have word : Word.ofText [settingsOpt, verboseOpt] ("--config=".toList ++ name) = .named settingsOpt (some name) := rfl
  have notDivider : ("--config=".toList ++ name == divider) = false := rfl
  rw [Arguments.read, word, notDivider]
  rfl

theorem read_examples (settings : Option Text) (verbose : Bool) (fuel : Nat) (n : Int) :
    Arguments.read settings verbose (fuel + 1) ["example".toList, "--count".toList, Text.ofInt n] =
      if Decimal.IsShort n then some ⟨settings, verbose, .examples n⟩ else none := by
  have word : Word.ofText [settingsOpt, verboseOpt] "example".toList = .operand := rfl
  have notDivider : ("example".toList == divider) = false := rfl
  rw [Arguments.read, word, notDivider]
  simp only [ofTexts?_examples]
  by_cases short : Decimal.IsShort n
  · simp [short]
  · simp [short]

/-- What a call comes to that asks for `n` examples: the first of them in rotation, as many as the number says. -/
def examplesShown (settings : Settings) (verbose : Bool) (n : Int) : Outcome where
  exitCode := 0
  output := Text.joinWith ['\n'] ((List.range n.toNat).map fun k => printed (settings.rotating k))
  report := {
    entries :=
      if verbose then
        (List.range n.toNat).map fun k => .exampleLoaded (k % settings.examples.length + 1) settings.examples.length
      else [] }

/-- A call for `n` examples, with or without a settings file. -/
def exampleWords (file : Option Text) (n : Int) : List Text :=
  (file.map ("--config=".toList ++ ·)).toList ++ ["example".toList, "--count".toList, Text.ofInt n]

theorem perform_examples {s : Surroundings} {file : Option Text} (taken : s.readSettings file = .ok (.ok settings))
    (verbose : Bool) (n : Int) :
    Arguments.perform ⟨file, verbose, .examples n⟩ s = .ok (examplesShown settings verbose n) := by
  have performed : Command.perform s (.start settings) (.examples n) = .ok (examplesShown settings true n) := by
    rw [Command.perform, showExamples_eq (Session.hasLoaded_start settings), ← List.range_eq_range']
    rfl
  have level (position total : Nat) : isShown verbose (.exampleLoaded position total) = verbose := by
    cases verbose <;> rfl
  simp only [Arguments.perform, taken, performed, bind, Except.bind, pure, Except.pure]
  cases verbose with
  | false => simp [examplesShown, level]
  | true => simp [examplesShown, level]

theorem ofTexts?_exampleWords {file : Option Text} (named : file ≠ some []) (n : Int) :
    Arguments.ofTexts? (exampleWords file n) =
      if Decimal.IsShort n then some ⟨file, false, .examples n⟩ else none := by
  cases file with
  | none =>
    rw [Arguments.ofTexts?, exampleWords]
    simp only [Option.map_none, Option.toList_none, List.nil_append, List.length_cons, List.length_nil, read_examples]
    by_cases short : Decimal.IsShort n
    · simp [short]
    · simp [short]
  | some name =>
    have given : name ≠ [] := fun empty => named (congrArg some empty)
    rw [Arguments.ofTexts?, exampleWords]
    simp only [Option.map_some, Option.toList_some, List.singleton_append, List.length_cons, List.length_nil, read_settings,
      read_examples]
    by_cases short : Decimal.IsShort n
    · simp [short, given]
    · simp [short]

/-- Loading goes round through the examples in every session, and never fails. A call for `n` examples prints the first
`n` that a session loads, none for a negative number. A number in the words of a call is read only up to the greatest
number of digits; a call with a longer one does not fit and prints nothing. -/
theorem examples_rotate (settings : Settings) :
    (∀ calls, Session.Rotates settings calls) ∧
      ∀ (s : Surroundings) (file : Option Text), s.readSettings file = .ok (.ok settings) →
        (∀ (verbose : Bool) (n : Int),
          Arguments.perform ⟨file, verbose, .examples n⟩ s = .ok (examplesShown settings verbose n)) ∧
        (file ≠ some [] → ∀ n : Int,
          perform (exampleWords file n) s =
            if Decimal.IsShort n then .ok (examplesShown settings false n) else .ok ⟨2, [], {}⟩) := by
  refine ⟨Session.rotates settings, fun s file taken => ⟨perform_examples taken, fun named n => ?_⟩⟩
  rw [perform, ofTexts?_exampleWords named]
  by_cases short : Decimal.IsShort n
  · simp only [if_pos short, perform_examples taken]
  · simp only [if_neg short]

/-- A settings file with two examples, of which the first comes again after the second. -/
theorem examples_rotate_two :
    let s : Surroundings := ⟨fun _ => .ok ("examples: [a, b]".toList.map fun c => c.toNat.toUInt8), []⟩
    ∃ settings, s.readSettings (some ['c']) = .ok (.ok settings) ∧
      (Session.start settings).positions [.load, .run ['a'], .load, .clear, .load] = [0, 1, 0] ∧
      perform (exampleWords (some ['c']) 3) s = .ok ⟨0, "a\n\nb\n\na\n".toList, {}⟩ ∧
      perform (exampleWords (some ['c']) (-1)) s = .ok ⟨0, [], {}⟩ := by
  intro s
  have two :
      (match s.readSettings (some ['c']) with
        | .ok (.ok settings) => settings.examples
        | _ => []) = [['a'], ['b']] := by
    decide +kernel
  split at two
  · next settings taken =>
    obtain ⟨sessions, calls⟩ := examples_rotate settings
    have words := (calls s (some ['c']) taken).2 (by decide)
    have positions := (sessions [.load, .run ['a'], .load, .clear, .load]).positions_eq
    rw [two] at positions
    obtain ⟨indentUnit, runDelay, overlapPolicy, examples, nonempty⟩ := settings
    obtain rfl : examples = [['a'], ['b']] := two
    refine ⟨_, taken, positions, ?_, ?_⟩
    · rw [words, if_pos (by decide), examplesShown]
      simp [Settings.rotating, List.range_succ, Text.joinWith, printed]
    · rw [words, if_pos (by decide)]
      rfl
  · contradiction

end CommandLine

end Playground
