import Mathlib.Data.List.SplitBy
import Playground.Statement.TruthWord

namespace Playground.Text

variable {word new t : Text}

/-- A text of characters of one kind, word characters or others, and at least one of them. -/
structure IsRun (kind : Bool) (run : Text) : Prop where
  ne_nil : run ≠ []
  uniform : ∀ c ∈ run, isWordChar c = kind

-- The characters of the run are tried one after another, not all the characters there are.
instance (kind : Bool) (run : Text) : Decidable (IsRun kind run) :=
  decidable_of_iff (run ≠ [] ∧ run.all (fun c => isWordChar c == kind) = true)
    ⟨fun ⟨ne_nil, uniform⟩ => ⟨ne_nil, by simpa using uniform⟩,
      fun isRun => ⟨isRun.ne_nil, by simpa using isRun.uniform⟩⟩

theorem IsRun.kind_unique {kind other : Bool} {run : Text} (isRun : IsRun kind run) (otherwise : IsRun other run) :
    kind = other := by
  obtain ⟨c, rest, rfl⟩ := List.exists_cons_of_ne_nil isRun.ne_nil
  rw [← isRun.uniform c List.mem_cons_self, otherwise.uniform c List.mem_cons_self]

theorem startsWithWord_iff :
    startsWithWord word t = true ↔ ∃ rest, t = word ++ rest ∧ ∀ c ∈ rest.head?, isWordChar c = false := by
  rw [startsWithWord, Bool.and_eq_true, startsWith, List.isPrefixOf_iff_prefix]
  constructor
  · rintro ⟨⟨rest, rfl⟩, ended⟩
    refine ⟨rest, rfl, ?_⟩
    rw [List.drop_left] at ended
    cases rest with
    | nil => simp
    | cons next rest => simpa using ended
  · rintro ⟨rest, rfl, ended⟩
    refine ⟨List.prefix_append word rest, ?_⟩
    rw [List.drop_left]
    cases rest with
    | nil => rfl
    | cons next rest => simpa using ended

/-- Whether a word stands in front does not depend on what is behind a character that is no word character. -/
theorem startsWithWord_append_cons (isWord : IsRun true word) {c : Char} (other : isWordChar c = false)
    (x y : Text) : startsWithWord word (x ++ c :: y) = startsWithWord word x := by
  rw [Bool.eq_iff_iff, startsWithWord_iff, startsWithWord_iff]
  constructor
  · rintro ⟨rest, whole, ended⟩
    rcases List.append_eq_append_iff.mp whole with ⟨more, rfl, behind⟩ | ⟨more, rfl, rfl⟩
    · cases more with
      | nil => exact ⟨[], by simp, by simp⟩
      | cons d more =>
        obtain rfl : c = d := (List.cons.inj behind).1
        have inWord := isWord.uniform c (by simp)
        rw [other] at inWord
        contradiction
    · refine ⟨more, rfl, ?_⟩
      cases more with
      | nil => simp
      | cons next more => simpa using ended
  · rintro ⟨rest, rfl, ended⟩
    refine ⟨rest ++ c :: y, by rw [List.append_assoc], ?_⟩
    cases rest with
    | nil => simpa using other
    | cons next rest => simpa using ended

theorem startsWithWord_self (word : Text) : startsWithWord word word = true :=
  startsWithWord_iff.mpr ⟨[], by simp, by simp⟩

/-- Within a run of word characters a word stands in front only if it is the whole run. -/
theorem eq_of_startsWithWord {run : Text} (isRun : IsRun true run) (starts : startsWithWord word run = true) :
    run = word := by
  obtain ⟨rest, rfl, ended⟩ := startsWithWord_iff.mp starts
  cases rest with
  | nil => simp
  | cons next rest =>
    have other := ended next rfl
    rw [isRun.uniform next (by simp)] at other
    contradiction

theorem replaceWordFrom_cons_other (isWord : IsRun true word) {c : Char} (other : isWordChar c = false)
    (inWord : Bool) (rest : Text) :
    replaceWordFrom word new 0 inWord (c :: rest) = c :: replaceWord word new rest := by
  have notHere : startsWithWord word (c :: rest) = false := by
    obtain ⟨d, letters, rfl⟩ := List.exists_cons_of_ne_nil isWord.ne_nil
    rw [← List.nil_append (c :: rest), startsWithWord_append_cons isWord other]
    rfl
  rw [replaceWordFrom, notHere, Bool.and_false, if_neg (by decide), other]
  rfl

/-- The characters of a replaced word are still there to be passed over when a cut comes. -/
theorem replaceWordFrom_append_cons (isWord : IsRun true word) {c : Char} (other : isWordChar c = false)
    {skip : Nat} {x : Text} (within : skip ≤ x.length) (inWord : Bool) (y : Text) :
    replaceWordFrom word new skip inWord (x ++ c :: y) =
      replaceWordFrom word new skip inWord x ++ c :: replaceWord word new y := by
  induction x generalizing skip inWord with
  | nil =>
    obtain rfl := Nat.le_zero.mp within
    exact replaceWordFrom_cons_other isWord other inWord y
  | cons d x ih =>
    cases skip with
    | succ skip => exact ih (Nat.le_of_succ_le_succ within) true
    | zero =>
      rw [List.cons_append, replaceWordFrom, replaceWordFrom, ← List.cons_append,
        startsWithWord_append_cons isWord other]
      by_cases here : (!inWord && startsWithWord word (d :: x)) = true
      · have fits : word.length - 1 ≤ x.length := by
          obtain ⟨rest, whole, _⟩ := startsWithWord_iff.mp (Bool.and_eq_true_iff.mp here).2
          have length := congrArg List.length whole
          rw [List.length_cons, List.length_append] at length
          omega
        rw [if_pos here, if_pos here, ih fits, List.append_assoc]
      · rw [if_neg here, if_neg here, ih (Nat.zero_le _), List.cons_append]

/-- A character that is no word character cuts a text. -/
theorem replaceWord_append_cons (isWord : IsRun true word) {c : Char} (other : isWordChar c = false) (x y : Text) :
    replaceWord word new (x ++ c :: y) = replaceWord word new x ++ c :: replaceWord word new y :=
  replaceWordFrom_append_cons isWord other (Nat.zero_le _) false y

/-- So does any text of such characters in front of the rest. -/
theorem replaceWord_append (isWord : IsRun true word) (x : Text) {y : Text}
    (ended : ∀ c ∈ y.head?, isWordChar c = false) :
    replaceWord word new (x ++ y) = replaceWord word new x ++ replaceWord word new y := by
  cases y with
  | nil => rw [List.append_nil, replaceWord, replaceWord, replaceWordFrom, List.append_nil]
  | cons c y =>
    have other := ended c rfl
    rw [replaceWord_append_cons isWord other]
    exact congrArg (_ ++ ·) (replaceWordFrom_cons_other isWord other false y).symm

theorem replaceWord_others (isWord : IsRun true word) {s : Text} (others : ∀ c ∈ s, isWordChar c = false) (y : Text) :
    replaceWord word new (s ++ y) = s ++ replaceWord word new y := by
  induction s with
  | nil => rfl
  | cons c s ih =>
    obtain ⟨other, rest⟩ := List.forall_mem_cons.mp others
    rw [List.cons_append, replaceWord, replaceWordFrom_cons_other isWord other, ih rest, List.cons_append]

theorem replaceWordFrom_skip (word new : Text) (inWord : Bool) (t : Text) :
    replaceWordFrom word new t.length inWord t = [] := by
  induction t generalizing inWord with
  | nil => rfl
  | cons c t ih => exact ih true

/-- Inside of a word nothing is replaced. -/
theorem replaceWordFrom_inWord (letters : ∀ c ∈ t, isWordChar c = true) : replaceWordFrom word new 0 true t = t := by
  induction t with
  | nil => rfl
  | cons c t ih =>
    obtain ⟨letter, rest⟩ := List.forall_mem_cons.mp letters
    rw [replaceWordFrom, Bool.not_true, Bool.false_and, if_neg (by decide), letter, ih rest]

/-- What becomes of a run: it is replaced if it is the word. -/
def replaceRun (word new run : Text) : Text := if run = word then new else run

theorem replaceWord_run {run : Text} (isRun : IsRun true run) :
    replaceWord word new run = replaceRun word new run := by
  obtain ⟨c, rest, rfl⟩ := List.exists_cons_of_ne_nil isRun.ne_nil
  rw [replaceWord, replaceWordFrom, replaceRun, Bool.not_false, Bool.true_and]
  by_cases same : c :: rest = word
  · subst same
    rw [if_pos (startsWithWord_self _), if_pos rfl, List.length_cons, Nat.add_sub_cancel, replaceWordFrom_skip,
      List.append_nil]
  · have letters := List.forall_mem_cons.mp isRun.uniform
    rw [if_neg (mt (eq_of_startsWithWord isRun) same), if_neg same, letters.1, replaceWordFrom_inWord letters.2]

theorem isRun_replaceRun_iff (isWord : IsRun true word) (isNew : IsRun true new) {kind : Bool} {run : Text} :
    IsRun kind (replaceRun word new run) ↔ IsRun kind run := by
  rw [replaceRun]
  split
  · rename_i same
    subst same
    constructor
    · intro isRun
      rwa [isRun.kind_unique isNew]
    · intro isRun
      rwa [isRun.kind_unique isWord]
  · rfl

/-- A text in maximal runs: each is of one kind, and neighbours are of different kinds. -/
structure IsRuns (t : Text) (runs : List Text) : Prop where
  flatten : runs.flatten = t
  uniform : ∀ run ∈ runs, ∃ kind, IsRun kind run
  maximal : runs.IsChain fun run next => ∀ kind, IsRun kind run → ¬ IsRun kind next

/-- The maximal runs of a text. -/
def runs (t : Text) : List Text := List.splitBy (fun c d => isWordChar c == isWordChar d) t

theorem isRun_of_isChain {run : Text} (some : run ≠ []) (alike : run.IsChain fun c d => isWordChar c == isWordChar d) :
    ∃ kind, IsRun kind run := by
  obtain ⟨c, rest, rfl⟩ := List.exists_cons_of_ne_nil some
  refine ⟨isWordChar c, some, ?_⟩
  induction rest generalizing c with
  | nil => simp
  | cons d rest ih =>
    rw [List.isChain_cons_cons, beq_iff_eq] at alike
    obtain ⟨same, alike⟩ := alike
    rw [List.forall_mem_cons, same]
    exact ⟨rfl, ih d (List.cons_ne_nil d rest) alike⟩

theorem isRuns_runs (t : Text) : IsRuns t (runs t) := by
  have uniform : ∀ run ∈ runs t, ∃ kind, IsRun kind run := fun run member =>
    isRun_of_isChain (List.ne_nil_of_mem_splitBy member) (List.isChain_of_mem_splitBy member)
  refine ⟨List.flatten_splitBy _ t, uniform, (List.isChain_getLast_head_splitBy _ t).imp ?_⟩
  rintro run next ⟨some, nextSome, differ⟩ kind isRun nextIsRun
  rw [isRun.uniform _ (List.getLast_mem some), nextIsRun.uniform _ (List.head_mem nextSome), beq_self_eq_true] at differ
  contradiction

/-- There is no other way to cut a text into maximal runs. -/
theorem IsRuns.eq_runs {pieces : List Text} (cut : IsRuns t pieces) : pieces = runs t := by
  rw [← cut.flatten]
  refine (List.splitBy_flatten ?_ ?_ ?_).symm
  · intro member
    obtain ⟨kind, isRun⟩ := cut.uniform [] member
    exact isRun.ne_nil rfl
  · intro run member
    obtain ⟨kind, isRun⟩ := cut.uniform run member
    refine List.Pairwise.isChain (List.pairwise_of_forall_mem_list fun c inRun d inRunEither => ?_)
    rw [isRun.uniform c inRun, isRun.uniform d inRunEither, beq_self_eq_true]
  · refine cut.maximal.imp_of_mem_imp fun run next member nextMember differ => ?_
    obtain ⟨kind, isRun⟩ := cut.uniform run member
    obtain ⟨other, nextIsRun⟩ := cut.uniform next nextMember
    refine ⟨isRun.ne_nil, nextIsRun.ne_nil, ?_⟩
    rw [isRun.uniform _ (List.getLast_mem _), nextIsRun.uniform _ (List.head_mem _), beq_eq_false_iff_ne]
    rintro rfl
    exact differ kind isRun nextIsRun

theorem IsRuns.tail {run : Text} {rest : List Text} (cut : IsRuns t (run :: rest)) : IsRuns rest.flatten rest :=
  ⟨rfl, fun other member => cut.uniform other (List.mem_cons_of_mem run member), cut.maximal.tail⟩

/-- Behind a run of word characters there is none. -/
theorem IsRuns.ended {run : Text} {rest : List Text} (cut : IsRuns t (run :: rest)) (isRun : IsRun true run) :
    ∀ c ∈ rest.flatten.head?, isWordChar c = false := by
  cases rest with
  | nil => simp
  | cons next more =>
    obtain ⟨kind, nextIsRun⟩ := cut.uniform next (by simp)
    have differ := (List.isChain_cons_cons.mp cut.maximal).1 true isRun
    obtain ⟨c, letters, rfl⟩ := List.exists_cons_of_ne_nil nextIsRun.ne_nil
    cases kind with
    | true => exact absurd nextIsRun differ
    | false => simpa using nextIsRun.uniform c List.mem_cons_self

theorem IsRuns.replaceWord_eq {pieces : List Text} (cut : IsRuns t pieces) (isWord : IsRun true word) :
    Text.replaceWord word new t = (pieces.map (replaceRun word new)).flatten := by
  induction pieces generalizing t with
  | nil =>
    rw [← cut.flatten]
    rfl
  | cons run rest ih =>
    rw [← cut.flatten, List.flatten_cons, List.map_cons, List.flatten_cons, ← ih cut.tail]
    obtain ⟨kind, isRun⟩ := cut.uniform run List.mem_cons_self
    cases kind with
    | true => rw [replaceWord_append isWord run (cut.ended isRun), replaceWord_run isRun]
    | false =>
      have notWord : run ≠ word := by
        rintro rfl
        exact Bool.false_ne_true (isRun.kind_unique isWord)
      rw [replaceWord_others isWord isRun.uniform, replaceRun, if_neg notWord]

/-- The runs of a text in which a word is replaced are its runs, each replaced if it is the word. -/
theorem IsRuns.replaceWord {pieces : List Text} (cut : IsRuns t pieces) (isWord : IsRun true word)
    (isNew : IsRun true new) : IsRuns (replaceWord word new t) (pieces.map (replaceRun word new)) := by
  refine ⟨(cut.replaceWord_eq isWord).symm, ?uniform, ?maximal⟩
  case uniform =>
    intro run member
    obtain ⟨old, inPieces, rfl⟩ := List.mem_map.mp member
    simpa only [isRun_replaceRun_iff isWord isNew] using cut.uniform old inPieces
  case maximal =>
    rw [List.isChain_map]
    simpa only [isRun_replaceRun_iff isWord isNew] using cut.maximal

/-- What becomes of a run when the truth words are replaced. -/
def truthRun (run : Text) : Text :=
  if run = "yeah".toList then "True".toList else if run = "nah".toList then "False".toList else run

theorem isRun_yeah : IsRun true "yeah".toList := by decide

theorem isRun_nah : IsRun true "nah".toList := by decide

theorem isRun_true : IsRun true "True".toList := by decide

theorem isRun_false : IsRun true "False".toList := by decide

theorem replaceRun_nah_yeah (run : Text) :
    replaceRun "nah".toList "False".toList (replaceRun "yeah".toList "True".toList run) = truthRun run := by
  unfold replaceRun truthRun
  split
  · decide
  · rfl

theorem replaceRun_yeah_nah (run : Text) :
    replaceRun "yeah".toList "True".toList (replaceRun "nah".toList "False".toList run) = truthRun run := by
  by_cases isNah : run = "nah".toList
  · subst isNah
    decide
  · simp only [replaceRun, truthRun, if_neg isNah]

theorem truthRun_truthRun (run : Text) : truthRun (truthRun run) = truthRun run := by
  by_cases isYeah : run = "yeah".toList
  · subst isYeah
    decide
  · by_cases isNah : run = "nah".toList
    · subst isNah
      decide
    · simp only [truthRun, if_neg isYeah, if_neg isNah]

theorem IsRuns.substituteTruth {pieces : List Text} (cut : IsRuns t pieces) :
    IsRuns (substituteTruth t) (pieces.map truthRun) := by
  have replaced := (cut.replaceWord isRun_yeah isRun_true).replaceWord isRun_nah isRun_false
  rwa [List.map_map, show replaceRun _ _ ∘ replaceRun _ _ = truthRun from funext replaceRun_nah_yeah] at replaced

/-- The order in which the truth words are replaced does not matter. -/
theorem replaceWord_comm (t : Text) :
    replaceWord "yeah".toList "True".toList (replaceWord "nah".toList "False".toList t) = substituteTruth t := by
  have cut := isRuns_runs t
  have replaced := (cut.replaceWord isRun_nah isRun_false).replaceWord isRun_yeah isRun_true
  rw [List.map_map, show replaceRun _ _ ∘ replaceRun _ _ = truthRun from funext replaceRun_yeah_nah] at replaced
  rw [← replaced.flatten, cut.substituteTruth.flatten]

theorem substituteTruth_substituteTruth (t : Text) : substituteTruth (substituteTruth t) = substituteTruth t := by
  have cut := (isRuns_runs t).substituteTruth
  rw [← cut.substituteTruth.flatten, ← cut.flatten, List.map_map,
    show truthRun ∘ truthRun = truthRun from funext truthRun_truthRun]

theorem substituteTruth_separated {s : Text} (others : IsRun false s) (x y : Text) :
    substituteTruth (x ++ s ++ y) = substituteTruth x ++ s ++ substituteTruth y := by
  have ended (z : Text) : ∀ c ∈ (s ++ z).head?, isWordChar c = false := by
    obtain ⟨d, more, rfl⟩ := List.exists_cons_of_ne_nil others.ne_nil
    simpa using others.uniform d List.mem_cons_self
  have separated (word new x y : Text) (isWord : IsRun true word) :
      replaceWord word new (x ++ s ++ y) = replaceWord word new x ++ s ++ replaceWord word new y := by
    rw [List.append_assoc, replaceWord_append isWord x (ended y), replaceWord_others isWord others.uniform,
      List.append_assoc]
  rw [substituteTruth, separated _ _ x y isRun_yeah, separated _ _ _ _ isRun_nah]
  rfl

/-- Replacing the truth words is a map over the maximal runs of a text, and a text has maximal runs in one way only. So
the two words may be replaced in either order, doing it twice is doing it once, and texts with other characters between
them are replaced on their own. -/
theorem substituteTruth_wholeWords (t : Text) :
    (∀ pieces, IsRuns t pieces ↔ pieces = runs t) ∧
      substituteTruth t = ((runs t).map truthRun).flatten ∧
      replaceWord "yeah".toList "True".toList (replaceWord "nah".toList "False".toList t) = substituteTruth t ∧
      substituteTruth (substituteTruth t) = substituteTruth t ∧
      ∀ x s y, t = x ++ s ++ y → IsRun false s → substituteTruth t = substituteTruth x ++ s ++ substituteTruth y := by
  refine ⟨?cut, ?mapped, replaceWord_comm t, substituteTruth_substituteTruth t, ?separated⟩
  case cut =>
    intro pieces
    constructor
    · exact IsRuns.eq_runs
    · rintro rfl
      exact isRuns_runs t
  case mapped => exact (isRuns_runs t).substituteTruth.flatten.symm
  case separated =>
    rintro x s y rfl others
    exact substituteTruth_separated others x y

/-- Words behind one another, a word that goes on, and one with an accent, which ends it. -/
theorem substituteTruth_wholeWords_accent :
    let x : Text := "nah,yeah yeah_1".toList
    let s : Text := " / ".toList
    let y : Text := "yeah\u0301nahs".toList
    IsRuns y ["yeah".toList, "\u0301".toList, "nahs".toList] ∧
      substituteTruth y = "True\u0301nahs".toList ∧
      substituteTruth (x ++ s ++ y) = "False,True yeah_1".toList ++ s ++ substituteTruth y := by
  intro x s y
  obtain ⟨cut, mapped, _⟩ := substituteTruth_wholeWords y
  obtain ⟨_, _, _, _, separated⟩ := substituteTruth_wholeWords (x ++ s ++ y)
  exact ⟨(cut _).mpr (by decide), mapped.trans (by decide),
    (separated x s y rfl (by decide)).trans (by decide)⟩

end Playground.Text
