import Playground.Proofs.Pseudocode.Lines

namespace Playground

/-- Whether a category opens a block. -/
def Category.isOpener : Category → Bool
  | .conditionalOpen | .loopOpen => true
  | _ => false

/-- Whether a category has nothing to do with blocks. -/
def Category.isLeaf : Category → Bool
  | .blockEnd | .elseBranch | .conditionalOpen | .loopOpen => false
  | _ => true

mutual

/-- A well-nested program by its categories: nothing, or a leaf and what follows it, or a block and what follows it.
A block has a body and any number of else branches. -/
inductive Outline where
  | nil
  | leaf (c : Category) (isLeaf : c.isLeaf = true) (rest : Outline)
  | block (opener : Category) (isOpener : opener.isOpener = true) (body : Outline) (branches : Branches)
      (rest : Outline)

/-- The else branches of a block. -/
inductive Branches where
  | nil
  | branch (body : Outline) (more : Branches)

end

mutual

/-- The categories of the lines of an outline, in order. -/
def Outline.categories : Outline → List Category
  | .nil => []
  | .leaf c _ rest => c :: rest.categories
  | .block opener _ body branches rest =>
    opener :: (body.categories ++ (branches.categories ++ .blockEnd :: rest.categories))

/-- The categories of the lines of else branches, in order. -/
def Branches.categories : Branches → List Category
  | .nil => []
  | .branch body more => .elseBranch :: (body.categories ++ more.categories)

end

mutual

/-- Where the lines of an outline belong: the opener of a block, its else branches and its end stand at the depth of
the outline, and the bodies one level deeper. -/
def Outline.placed (depth : Nat) : Outline → List (Category × Nat)
  | .nil => []
  | .leaf c _ rest => (c, depth) :: rest.placed depth
  | .block opener _ body branches rest =>
    (opener, depth) :: (body.placed (depth + 1) ++ (branches.placed depth ++ (.blockEnd, depth) :: rest.placed depth))

/-- Where the lines of the else branches of a block at the given depth belong. -/
def Branches.placed (depth : Nat) : Branches → List (Category × Nat)
  | .nil => []
  | .branch body more => (.elseBranch, depth) :: (body.placed (depth + 1) ++ more.placed depth)

end

namespace Nesting

theorem step_leaf {c : Category} (isLeaf : c.isLeaf = true) (depth : Nat) :
    enter c depth = depth ∧ step depth c = depth := by
  cases c <;> first | contradiction | exact ⟨rfl, rfl⟩

theorem step_opener {c : Category} (isOpener : c.isOpener = true) (depth : Nat) :
    enter c depth = depth ∧ step depth c = depth + 1 := by
  cases c <;> first | contradiction | exact ⟨rfl, rfl⟩

theorem step_elseBranch (depth : Nat) :
    enter .elseBranch (depth + 1) = depth ∧ step (depth + 1) .elseBranch = depth + 1 := ⟨rfl, rfl⟩

theorem step_blockEnd (depth : Nat) : enter .blockEnd (depth + 1) = depth ∧ step (depth + 1) .blockEnd = depth :=
  ⟨rfl, rfl⟩

end Nesting

mutual

/-- An outline leaves the depth as it was. -/
theorem Outline.after_categories (o : Outline) (depth : Nat) : Nesting.after depth o.categories = depth := by
  cases o with
  | nil => rfl
  | leaf c isLeaf rest =>
    rw [Outline.categories, Nesting.after_cons, (Nesting.step_leaf isLeaf depth).2, rest.after_categories depth]
  | block opener isOpener body branches rest =>
    rw [Outline.categories, Nesting.after_cons, (Nesting.step_opener isOpener depth).2, Nesting.after_append,
      body.after_categories (depth + 1), Nesting.after_append, branches.after_categories depth, Nesting.after_cons,
      (Nesting.step_blockEnd depth).2, rest.after_categories depth]

/-- Else branches start and end inside of their block. -/
theorem Branches.after_categories (b : Branches) (depth : Nat) :
    Nesting.after (depth + 1) b.categories = depth + 1 := by
  cases b with
  | nil => rfl
  | branch body more =>
    -- The line of the branch is met one level inside, so stepping out of the body before it never meets the floor.
    rw [Branches.categories, Nesting.after_cons, (Nesting.step_elseBranch depth).2, Nesting.after_append,
      body.after_categories (depth + 1), more.after_categories depth]

end

mutual

/-- The lines of an outline stand where they belong. -/
theorem Outline.emitted_categories (o : Outline) (depth : Nat) :
    Nesting.emitted depth o.categories = o.placed depth := by
  cases o with
  | nil => rfl
  | leaf c isLeaf rest =>
    obtain ⟨here, next⟩ := Nesting.step_leaf isLeaf depth
    rw [Outline.categories, Nesting.emitted_cons, here, next, rest.emitted_categories depth, Outline.placed]
  | block opener isOpener body branches rest =>
    -- Body and branches start one level inside; the end is met there, too, and what follows is outside again.
    obtain ⟨here, inside⟩ := Nesting.step_opener isOpener depth
    obtain ⟨outside, next⟩ := Nesting.step_blockEnd depth
    rw [Outline.categories, Nesting.emitted_cons, here, inside, Nesting.emitted_append,
      body.emitted_categories (depth + 1), body.after_categories, Nesting.emitted_append,
      branches.emitted_categories depth, branches.after_categories, Nesting.emitted_cons, outside, next,
      rest.emitted_categories depth, Outline.placed]

/-- The lines of else branches stand where they belong. -/
theorem Branches.emitted_categories (b : Branches) (depth : Nat) :
    Nesting.emitted (depth + 1) b.categories = b.placed depth := by
  cases b with
  | nil => rfl
  | branch body more =>
    obtain ⟨outside, inside⟩ := Nesting.step_elseBranch depth
    rw [Branches.categories, Nesting.emitted_cons, outside, inside, Nesting.emitted_append,
      body.emitted_categories (depth + 1), body.after_categories, more.emitted_categories depth, Branches.placed]

end

namespace Outline

open Pseudocode

/-- The lines of a well-nested program come out well nested, wherever the program starts: each stands where it
belongs, and the depth at the end is that at the start. So the pseudocode of a source whose lines are those of an
outline closes all its blocks, and its lines stand where the outline places them. -/
theorem well_nested (o : Outline) (depth : Nat) :
    Nesting.emitted depth o.categories = o.placed depth ∧
      Nesting.after depth o.categories = depth ∧
      ∀ indentUnit source, (Statement.ofSource source).map (·.category) = o.categories →
        (Program.ofSource indentUnit source).finalDepth = 0 ∧
          (Program.ofSource indentUnit source).lines.map (fun l => (l.category, l.depth)) = o.placed 0 := by
  refine ⟨o.emitted_categories depth, o.after_categories depth, ?_⟩
  intro indentUnit source shape
  constructor
  · calc (Program.ofSource indentUnit source).finalDepth
        = Nesting.after 0 ((Statement.ofSource source).map (·.category)) := rfl
      _ = 0 := by rw [shape, o.after_categories]
  · calc (Program.ofSource indentUnit source).lines.map (fun l => (l.category, l.depth))
        = Nesting.emitted 0 ((Statement.ofSource source).map (·.category)) := map_linesFrom indentUnit 0 _
      _ = o.placed 0 := by rw [shape, o.emitted_categories]

/-- A conditional with two else branches, the second of which is empty, in a loop. -/
theorem well_nested_branches :
    let source := "vibe until done\nsus check a\nspill 1\nplot twist\nsum n 1\nplot twist\nend sus\nend vibe".toList
    let o : Outline :=
      .block .loopOpen rfl
        (.block .conditionalOpen rfl (.leaf .plainPrint rfl .nil)
          (.branch (.leaf .compoundAdd rfl .nil) (.branch .nil .nil)) .nil)
        .nil .nil
    (Statement.ofSource source).map (·.category) = o.categories ∧
      (Program.ofSource defaultIndentUnit source).finalDepth = 0 ∧
      (Program.ofSource defaultIndentUnit source).lines.map (fun l => (l.category, l.depth)) =
        [(.loopOpen, 0), (.conditionalOpen, 1), (.plainPrint, 2), (.elseBranch, 1), (.compoundAdd, 2), (.elseBranch, 1),
         (.blockEnd, 1), (.blockEnd, 0)] := by
  intro source o
  have shape : (Statement.ofSource source).map (·.category) = o.categories := by decide
  obtain ⟨closed, placed⟩ := (well_nested o 0).2.2 defaultIndentUnit source shape
  exact ⟨shape, closed, placed⟩

end Outline

end Playground
