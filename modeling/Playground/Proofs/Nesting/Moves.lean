import Mathlib.Algebra.BigOperators.Group.List.Basic
import Mathlib.Algebra.Ring.Int.Defs
import Mathlib.Data.List.Induction
import Mathlib.Order.Bounds.Basic
import Playground.Proofs.Nesting
import Playground.Proofs.Outline

namespace Playground.Nesting

/-- The moves of a line before it is emitted. -/
def movesBefore : Category → List Int
  | .blockEnd | .elseBranch => [-1]
  | _ => []

/-- The moves of a line after it is emitted. -/
def movesAfter : Category → List Int
  | .conditionalOpen | .loopOpen | .elseBranch => [1]
  | _ => []

/-- The moves of some lines. -/
def moves (cs : List Category) : List Int := cs.flatMap fun c => movesBefore c ++ movesAfter c

theorem moves_append (cs more : List Category) : moves (cs ++ more) = moves cs ++ moves more := List.flatMap_append

theorem moves_concat (cs : List Category) (c : Category) :
    moves (cs ++ [c]) = moves cs ++ movesBefore c ++ movesAfter c := by
  rw [moves_append, List.append_assoc, moves, moves, List.flatMap_singleton]

/-- The depth after some moves, given the depth before them. It never goes below zero. -/
def walk (depth : Nat) (made : List Int) : Nat := made.foldl (fun depth move => ((depth : Int) + move).toNat) depth

theorem walk_append (depth : Nat) (made more : List Int) : walk depth (made ++ more) = walk (walk depth made) more :=
  List.foldl_append

theorem walk_concat (depth : Nat) (made : List Int) (move : Int) :
    walk depth (made ++ [move]) = (walk depth made + move).toNat := by
  rw [walk_append]
  rfl

theorem enter_eq_walk (c : Category) (depth : Nat) : enter c depth = walk depth (movesBefore c) := by
  cases c <;> simp only [enter, walk, movesBefore, List.foldl_cons, List.foldl_nil] <;> omega

theorem leave_eq_walk (c : Category) (depth : Nat) : leave c depth = walk depth (movesAfter c) := by
  cases c <;> simp only [leave, walk, movesAfter, List.foldl_cons, List.foldl_nil] <;> omega

theorem after_eq_walk (cs : List Category) : after 0 cs = walk 0 (moves cs) := by
  induction cs using List.reverseRecOn with
  | nil => rfl
  | append_singleton cs c ih =>
    rw [after_append, after_cons, step, enter_eq_walk, leave_eq_walk, ih, moves_concat, walk_append, walk_append]
    rfl

/-- The sums that the last of some moves have; of none of them it is zero. -/
def suffixSums (made : List Int) : Set Int := {total | ∃ rest, rest <:+ made ∧ rest.sum = total}

theorem zero_mem_suffixSums (made : List Int) : 0 ∈ suffixSums made := ⟨[], List.nil_suffix, rfl⟩

theorem mem_suffixSums_concat {made : List Int} {move total : Int} :
    total ∈ suffixSums (made ++ [move]) ↔ total = 0 ∨ ∃ earlier ∈ suffixSums made, total = earlier + move := by
  constructor
  · rintro ⟨rest, isSuffix, rfl⟩
    rcases List.suffix_concat_iff.mp isSuffix with rfl | ⟨earlier, rfl, isEarlier⟩
    · exact Or.inl rfl
    · exact Or.inr ⟨earlier.sum, ⟨earlier, isEarlier, rfl⟩, by rw [List.sum_append, List.sum_singleton]⟩
  · rintro (rfl | ⟨_, ⟨earlier, isEarlier, rfl⟩, rfl⟩)
    · exact zero_mem_suffixSums _
    · exact ⟨earlier ++ [move], List.suffix_concat_iff.mpr (Or.inr ⟨earlier, rfl, isEarlier⟩),
        by rw [List.sum_append, List.sum_singleton]⟩

/-- A walk from depth zero is as deep as the largest sum of its last moves. -/
theorem isGreatest_walk (made : List Int) : IsGreatest (suffixSums made) (walk 0 made : Int) := by
  induction made using List.reverseRecOn with
  | nil =>
    refine ⟨zero_mem_suffixSums [], ?_⟩
    rintro total ⟨rest, isSuffix, rfl⟩
    rw [List.suffix_nil.mp isSuffix]
    exact le_rfl
  | append_singleton made move ih =>
    obtain ⟨reached, bound⟩ := ih
    rw [walk_concat]
    constructor
    · rw [mem_suffixSums_concat]
      by_cases below : (walk 0 made : Int) + move < 0
      · left
        omega
      · exact Or.inr ⟨walk 0 made, reached, by omega⟩
    · intro total member
      rcases mem_suffixSums_concat.mp member with rfl | ⟨earlier, inEarlier, rfl⟩
      · omega
      · have notAbove := bound inEarlier
        omega

theorem getElem?_trace (depth : Nat) (before : List Category) (c : Category) (rest : List Category) :
    (trace depth (before ++ c :: rest))[before.length]? =
      some (enter c (after depth before), after depth (before ++ [c])) := by
  induction before generalizing depth with
  | nil => rfl
  | cons d before ih => exact ih (step depth d)

/-- A pass over lines stops before its first line, at each line that is to be emitted and behind each line. It has made
some moves then and is at some depth. -/
inductive StopsAt : List Category → List Int → Nat → Prop
  | start (cs : List Category) : StopsAt cs [] 0
  | entered (before : List Category) (c : Category) (rest : List Category) :
      StopsAt (before ++ c :: rest) (moves before ++ movesBefore c) (enter c (after 0 before))
  | left (before : List Category) (c : Category) (rest : List Category) :
      StopsAt (before ++ c :: rest) (moves (before ++ [c])) (after 0 (before ++ [c]))

theorem StopsAt.append {cs : List Category} {made : List Int} {depth : Nat} (stop : StopsAt cs made depth)
    (more : List Category) : StopsAt (cs ++ more) made depth := by
  cases stop with
  | start => exact .start _
  | entered before c rest =>
    rw [List.append_assoc, List.cons_append]
    exact .entered before c (rest ++ more)
  | left before c rest =>
    rw [List.append_assoc, List.cons_append]
    exact .left before c (rest ++ more)

theorem StopsAt.eq_walk {cs : List Category} {made : List Int} {depth : Nat} (stop : StopsAt cs made depth) :
    depth = walk 0 made := by
  cases stop with
  | start => rfl
  | entered before c rest => rw [enter_eq_walk, after_eq_walk, walk_append]
  | left before c rest => rw [after_eq_walk]

theorem prefix_append_of_single {made front back : List Int} (single : back.length ≤ 1)
    (isPrefix : made <+: front ++ back) : made = front ++ back ∨ made <+: front := by
  match back with
  | [] => exact Or.inr (by rwa [List.append_nil] at isPrefix)
  | [move] => exact List.prefix_concat_iff.mp isPrefix

theorem length_movesBefore (c : Category) : (movesBefore c).length ≤ 1 := by cases c <;> decide

theorem length_movesAfter (c : Category) : (movesAfter c).length ≤ 1 := by cases c <;> decide

/-- A pass stops after each of its moves. -/
theorem exists_stopsAt {made : List Int} {cs : List Category} (isPrefix : made <+: moves cs) :
    ∃ depth, StopsAt cs made depth := by
  induction cs using List.reverseRecOn with
  | nil =>
    obtain rfl := List.prefix_nil.mp isPrefix
    exact ⟨0, .start []⟩
  | append_singleton cs c ih =>
    rw [moves_concat] at isPrefix
    rcases prefix_append_of_single (length_movesAfter c) isPrefix with rfl | isPrefix
    · rw [← moves_concat]
      exact ⟨_, .left cs c []⟩
    · rcases prefix_append_of_single (length_movesBefore c) isPrefix with rfl | isPrefix
      · exact ⟨_, .entered cs c []⟩
      · obtain ⟨depth, stop⟩ := ih isPrefix
        exact ⟨depth, stop.append [c]⟩

/-- Whether lines of a category step in: the openers and else branches. -/
def stepsIn (c : Category) : Bool := c.isOpener || c == .elseBranch

theorem step_le_stepsIn (depth : Nat) (c : Category) : step depth c ≤ depth + [c].countP stepsIn := by
  have entered := enter_le c depth
  cases c <;> simp [step, enter, leave, stepsIn, Category.isOpener] at entered ⊢

theorem after_le_countP (cs : List Category) : after 0 cs ≤ cs.countP stepsIn := by
  induction cs using List.reverseRecOn with
  | nil => exact le_rfl
  | append_singleton cs c ih =>
    have one := step_le_stepsIn (after 0 cs) c
    rw [after_append, List.countP_append]
    exact one.trans (Nat.add_le_add_right ih _)

/-- The depth has a closed form. A pass over lines stops after each of its moves, and wherever it stops, it is as deep
as the largest sum that the last of the moves made so far have. So the depth in the end is zero exactly if none of the
sums is positive, and no line stands deeper than there are openers and else branches before it. The lines of a program
stand where such a pass emits them. -/
theorem depth_eq_largest_suffix_sum (cs : List Category) :
    (∀ made, made <+: moves cs → ∃ depth, StopsAt cs made depth) ∧
      (∀ made depth, StopsAt cs made depth → IsGreatest (suffixSums made) (depth : Int) ∧ 0 ≤ (depth : Int)) ∧
      (∀ before c rest, cs = before ++ c :: rest →
        ∃ here next, (trace 0 cs)[before.length]? = some (here, next) ∧
          StopsAt cs (moves before ++ movesBefore c) here ∧ here ≤ before.countP stepsIn ∧
          StopsAt cs (moves (before ++ [c])) next ∧ next ≤ (before ++ [c]).countP stepsIn) ∧
      IsGreatest (suffixSums (moves cs)) (after 0 cs : Int) ∧
      (after 0 cs = 0 ↔ ∀ rest, rest <:+ moves cs → rest.sum ≤ 0) ∧
      ∀ indentUnit source, (Statement.ofSource source).map (·.category) = cs →
        (Pseudocode.Program.ofSource indentUnit source).finalDepth = after 0 cs ∧
          (Pseudocode.Program.ofSource indentUnit source).lines.map (fun l => (l.category, l.depth)) =
            emitted 0 cs := by
  have final : IsGreatest (suffixSums (moves cs)) (after 0 cs : Int) := by
    rw [after_eq_walk]
    exact isGreatest_walk (moves cs)
  refine ⟨fun made => exists_stopsAt, ?greatest, ?lines, final, ?closed, ?program⟩
  case greatest =>
    intro made depth stop
    rw [stop.eq_walk]
    exact ⟨isGreatest_walk made, Int.natCast_nonneg _⟩
  case lines =>
    rintro before c rest rfl
    refine ⟨_, _, getElem?_trace 0 before c rest, .entered before c rest, ?_, .left before c rest, after_le_countP _⟩
    exact (enter_le c _).trans (after_le_countP before)
  case closed =>
    obtain ⟨⟨largest, isSuffix, sum⟩, bound⟩ := final
    constructor
    · intro closed rest isRest
      have notAbove := bound ⟨rest, isRest, rfl⟩
      omega
    · intro none
      have notPositive := none largest isSuffix
      omega
  case program =>
    rintro indentUnit source rfl
    exact ⟨rfl, Pseudocode.map_linesFrom indentUnit 0 _⟩

/-- An else branch and an end too many, and a loop with an else branch that is not closed. -/
theorem depth_eq_largest_suffix_sum_unmatched :
    let source := "plot twist\nend sus\nend sus\nvibe until a\nplot twist\nspill b".toList
    let cs : List Category := [.elseBranch, .blockEnd, .blockEnd, .loopOpen, .elseBranch, .plainPrint]
    let p := Pseudocode.Program.ofSource Pseudocode.defaultIndentUnit source
    (Statement.ofSource source).map (·.category) = cs ∧ moves cs = [-1, 1, -1, -1, 1, -1, 1] ∧
      (∃ depth : Nat, StopsAt cs [-1, 1, -1, -1] depth ∧ IsGreatest (suffixSums [-1, 1, -1, -1]) (depth : Int)) ∧
      (∃ here next : Nat, (trace 0 cs)[4]? = some (here, next) ∧ here ≤ 2 ∧
        IsGreatest (suffixSums [-1, 1, -1, -1, 1, -1]) (here : Int)) ∧
      p.finalDepth = after 0 cs ∧ after 0 cs = 1 := by
  intro source cs p
  obtain ⟨stops, greatest, lines, _, _, program⟩ := depth_eq_largest_suffix_sum cs
  have shape : (Statement.ofSource source).map (·.category) = cs := by decide
  obtain ⟨depth, stop⟩ := stops [-1, 1, -1, -1] (by decide)
  obtain ⟨here, next, found, entered, bound, _⟩ :=
    lines [.elseBranch, .blockEnd, .blockEnd, .loopOpen] .elseBranch [.plainPrint] rfl
  exact ⟨shape, by decide, ⟨depth, stop, (greatest _ _ stop).1⟩, ⟨here, next, found, bound, (greatest _ _ entered).1⟩,
    (program Pseudocode.defaultIndentUnit source shape).1, by decide⟩

end Playground.Nesting
