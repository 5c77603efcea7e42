import Playground.Pseudocode.Basic

namespace Playground

namespace Nesting

theorem after_cons (depth : Nat) (c : Category) (cs : List Category) : after depth (c :: cs) = after (step depth c) cs :=
  rfl

theorem after_append (depth : Nat) (cs more : List Category) :
    after depth (cs ++ more) = after (after depth cs) more := List.foldl_append

/-- The depths at which lines stand, given the depth before them. -/
def depths (depth : Nat) (cs : List Category) : List Nat := (trace depth cs).map (·.1)

theorem depths_cons (depth : Nat) (c : Category) (cs : List Category) :
    depths depth (c :: cs) = enter c depth :: depths (step depth c) cs := rfl

/-- The categories of lines, each with the depth at which its line stands. -/
def emitted (depth : Nat) (cs : List Category) : List (Category × Nat) := cs.zip (depths depth cs)

theorem emitted_cons (depth : Nat) (c : Category) (cs : List Category) :
    emitted depth (c :: cs) = (c, enter c depth) :: emitted (step depth c) cs := rfl

theorem emitted_append (depth : Nat) (cs more : List Category) :
    emitted depth (cs ++ more) = emitted depth cs ++ emitted (after depth cs) more := by
  induction cs generalizing depth with
  | nil => rfl
  | cons c cs ih => rw [List.cons_append, emitted_cons, ih, emitted_cons, List.cons_append, after_cons]

end Nesting

theorem Statement.raw_ofLine (raw : Text) : (ofLine raw).raw = raw := by
  rw [ofLine]
  split
  · rfl
  · split <;> rfl

namespace Pseudocode

/-- The line of a statement that stands at a depth. -/
def Line.ofStatement (indentUnit : Text) (s : Statement) (depth : Nat) : Line :=
  ⟨s.category, depth, s.pseudocode indentUnit depth⟩

/-- Blank lines and comments are kept as they are. -/
theorem Line.text_ofStatement {raw : Text} (blank : (Statement.ofLine raw).category = .blankOrComment)
    (indentUnit : Text) (depth : Nat) : (Line.ofStatement indentUnit (.ofLine raw) depth).text = some raw := by
  rw [Line.ofStatement, Statement.pseudocode, blank, Statement.raw_ofLine]

/-- Only block ends have no text. -/
theorem Line.text_ofStatement_eq_none_iff (indentUnit : Text) (s : Statement) (depth : Nat) :
    (Line.ofStatement indentUnit s depth).text = none ↔ s.category = .blockEnd := by
  rw [Line.ofStatement, Statement.pseudocode]
  split <;> simp_all

theorem linesFrom_eq_zipWith (indentUnit : Text) (depth : Nat) (statements : List Statement) :
    linesFrom indentUnit depth statements =
      List.zipWith (Line.ofStatement indentUnit) statements
        (Nesting.depths depth (statements.map (·.category))) := by
  induction statements generalizing depth with
  | nil => rfl
  | cons s statements ih =>
    rw [linesFrom, ih, List.map_cons, Nesting.depths_cons, List.zipWith_cons_cons]
    rfl

theorem map_linesFrom (indentUnit : Text) (depth : Nat) (statements : List Statement) :
    (linesFrom indentUnit depth statements).map (fun l => (l.category, l.depth)) =
      Nesting.emitted depth (statements.map (·.category)) := by
  rw [linesFrom_eq_zipWith, List.map_zipWith, Nesting.emitted, List.zip, List.zipWith_map_left]
  rfl

theorem length_linesFrom (indentUnit : Text) (depth : Nat) (statements : List Statement) :
    (linesFrom indentUnit depth statements).length = statements.length := by
  induction statements generalizing depth with
  | nil => rfl
  | cons s statements ih => rw [linesFrom, List.length_cons, ih, List.length_cons]

theorem of_mem_linesFrom {indentUnit : Text} {depth : Nat} {statements : List Statement} {l : Line}
    (member : l ∈ linesFrom indentUnit depth statements) :
    ∃ s ∈ statements, ∃ here, l = Line.ofStatement indentUnit s here := by
  rw [linesFrom_eq_zipWith, ← List.map_uncurry_zip_eq_zipWith] at member
  obtain ⟨⟨s, here⟩, pair, rfl⟩ := List.mem_map.mp member
  exact ⟨s, (List.of_mem_zip pair).1, here, rfl⟩

theorem text_eq_none_iff_of_mem_linesFrom {indentUnit : Text} {depth : Nat} {statements : List Statement} {l : Line}
    (member : l ∈ linesFrom indentUnit depth statements) : l.text = none ↔ l.category = .blockEnd := by
  obtain ⟨s, _, here, rfl⟩ := of_mem_linesFrom member
  exact Line.text_ofStatement_eq_none_iff indentUnit s here

theorem Program.texts_ne_nil {indentUnit source : Text} {l : Line}
    (member : l ∈ (Program.ofSource indentUnit source).lines) (notEnd : l.category ≠ .blockEnd) :
    (Program.ofSource indentUnit source).lines.filterMap (·.text) ≠ [] := by
  obtain ⟨t, text⟩ := Option.ne_none_iff_exists'.mp (mt (text_eq_none_iff_of_mem_linesFrom member).mp notEnd)
  exact List.ne_nil_of_mem (List.mem_filterMap.mpr ⟨l, member, text⟩)

/-- A line is made of the source line at its position, and of the depth there. -/
theorem Program.getElem?_lines {indentUnit source : Text} {i : Nat} {l : Line}
    (found : (Program.ofSource indentUnit source).lines[i]? = some l) :
    ∃ raw depth, source.lines[i]? = some raw ∧
      (Nesting.depths 0 ((Statement.ofSource source).map (·.category)))[i]? = some depth ∧
      l = Line.ofStatement indentUnit (.ofLine raw) depth := by
  have lines := linesFrom_eq_zipWith indentUnit 0 (Statement.ofSource source)
  rw [Program.ofSource, lines, List.getElem?_zipWith_eq_some] at found
  obtain ⟨s, depth, atLine, atDepth, rfl⟩ := found
  rw [Statement.ofSource, List.getElem?_map, Option.map_eq_some_iff] at atLine
  obtain ⟨raw, isLine, rfl⟩ := atLine
  exact ⟨raw, depth, isLine, atDepth, rfl⟩

end Pseudocode

end Playground
