import Playground.Proofs.Yaml.Breaks
import Playground.Yaml.Token.Scan

namespace Playground.Yaml

namespace Scan

theorem advance_add (m n : Nat) (s : Scan) : s.advance (m + n) = (s.advance m).advance n := by
  induction m generalizing s with
  | zero => rw [Nat.zero_add, advance]
  | succ m ih =>
    rw [Nat.add_right_comm]
    cases rest : s.rest with
    | nil =>
      have stays (k : Nat) : s.advance k = s := by
        cases k with
        | zero => rfl
        | succ k => rw [advance, rest]
      rw [stays, stays, stays]
    | cons c more =>
      rw [advance, advance, rest]
      exact ih _

theorem advance_pending (key : Option PendingKey) (n : Nat) (s : Scan) :
    ({ s with pending := key } : Scan).advance n = { s.advance n with pending := key } := by
  induction n generalizing s with
  | zero => rfl
  | succ n ih =>
    cases rest : s.rest with
    | nil => simp [advance, rest]
    | cons c more =>
      simp only [advance, rest]
      rw [← ih]

theorem passGap_of_gap {s : Scan} (ready : gap false s.rest = (0, false)) : s.passGap = s := by
  simp [passGap, ready, advance]

/-- What is read depends only on what follows the gap. -/
theorem run_of_passGap {s s' : Scan} (same : s.passGap = s'.passGap) (fuel : Nat) : run fuel s = run fuel s' := by
  cases fuel with
  | zero => rfl
  | succ fuel => rw [run, run, same]

theorem closeBlocks_of_le {column indent : Int} (settled : indent ≤ column) (outers : List Int) :
    closeBlocks column indent outers = (indent, outers, []) := by
  cases outers with
  | nil => rfl
  | cons outer more => rw [closeBlocks, if_neg (by omega)]

variable {s : Scan} {c : Char} {more : Text}

theorem run_cons (here : s.rest = c :: more) (ready : gap false s.rest = (0, false)) (fresh : s.dropStale = .ok s)
    (fuel : Nat) : run (fuel + 1) s = ((s.unwind s.column).token (fuel + 1) c more).bind (run fuel) := by
  rw [run, passGap_of_gap ready, fresh]
  simp only [bind, Except.bind, here]

/-- Where no block has to be closed, the token at hand is read, and scanning goes on behind it. -/
theorem run_settled (here : s.rest = c :: more) (ready : gap false s.rest = (0, false)) (fresh : s.dropStale = .ok s)
    (settled : s.indent ≤ s.column) (fuel : Nat) :
    run (fuel + 1) s = (s.token (fuel + 1) c more).bind (run fuel) := by
  have stays : s.unwind s.column = s := by
    unfold unwind
    split
    · rfl
    · simp [closeBlocks_of_le settled, emit]
  rw [run_cons here ready fresh, stays]

end Scan

/-- A place between two tokens: what remains of the text and the blocks that are open. No key is pending. -/
structure Place where
  rest : Text
  column : Nat
  indent : Int
  outers : List Int
  keyAllowed : Bool

namespace Place

/-- The state at a place, whatever was read before. -/
def scan (p : Place) (line index : Nat) (tokens : List Token) : Scan :=
  { rest := p.rest, index, line, column := p.column, indent := p.indent, outerIndents := p.outers,
    keyAllowed := p.keyAllowed, tokens }

section
variable (p : Place) (line index : Nat) (tokens : List Token)

@[simp]
theorem scan_rest : (p.scan line index tokens).rest = p.rest := rfl

@[simp]
theorem scan_column : (p.scan line index tokens).column = p.column := rfl

@[simp]
theorem scan_indent : (p.scan line index tokens).indent = p.indent := rfl

@[simp]
theorem scan_outerIndents : (p.scan line index tokens).outerIndents = p.outers := rfl

@[simp]
theorem scan_inFlow : (p.scan line index tokens).inFlow = false := rfl

end

/-- From a place on, scanning adds these tokens to the ones read before. -/
def Gives (p : Place) (ts : List Token) : Prop :=
  ∀ line index tokens fuel, p.rest.length < fuel → Scan.run fuel (p.scan line index tokens) = .ok (tokens ++ ts)

/-- The column behind a character. -/
def columnBehind (column : Nat) (c : Char) : Nat :=
  if isBreak c then 0 else if c == '\uFEFF' then column else column + 1

theorem advance_cons {p : Place} {c : Char} {more : Text} (here : p.rest = c :: more) (line index : Nat)
    (tokens : List Token) (n : Nat) :
    (p.scan line index tokens).advance (n + 1) =
      ({ p with rest := more, column := columnBehind p.column c }.scan (if isBreak c then line + 1 else line)
        (index + 1) tokens).advance n := by
  rw [Scan.advance, scan_rest, here]
  cases breaks : isBreak c with
  | true => simp [scan, columnBehind, breaks]
  | false => cases mark : c == '\uFEFF' <;> simp [scan, columnBehind, breaks, mark]

theorem advance_scan (p : Place) (line index : Nat) (tokens : List Token) (n : Nat) :
    ∃ column line' index',
      (p.scan line index tokens).advance n = { p with rest := p.rest.drop n, column }.scan line' index' tokens := by
  induction n generalizing p line index with
  | zero => exact ⟨p.column, line, index, rfl⟩
  | succ n ih =>
    cases here : p.rest with
    | nil => exact ⟨p.column, line, index, by simp [Scan.advance, scan, here]⟩
    | cons c more =>
      rw [advance_cons here]
      exact ih _ _ _

/-- On one line, every character but the byte order mark takes a column. -/
theorem advance_inline {p : Place} {a b : Text} (here : p.rest = a ++ b)
    (chars : ∀ c ∈ a, isBreak c = false ∧ c ≠ '\uFEFF') (line index : Nat) (tokens : List Token) :
    (p.scan line index tokens).advance a.length =
      { p with rest := b, column := p.column + a.length }.scan line (index + a.length) tokens := by
  induction a generalizing p index with
  | nil => simp [Scan.advance, scan, here]
  | cons c a ih =>
    obtain ⟨notBreak, noMark⟩ := chars c List.mem_cons_self
    have other : (c == '\uFEFF') = false := beq_eq_false_iff_ne.mpr noMark
    have next := ih (p := { p with rest := a ++ b, column := p.column + 1 }) rfl
      (fun d member => chars d (List.mem_cons_of_mem c member)) (index + 1)
    rw [List.cons_append] at here
    rw [List.length_cons, advance_cons here, columnBehind, notBreak, other]
    simp only [Bool.false_eq_true, if_false] at next ⊢
    rw [next, Nat.add_right_comm, Nat.add_right_comm index, Nat.add_assoc, Nat.add_assoc]

theorem advance_newLine {p : Place} {a b : Text} {width : Nat}
    (here : p.rest = a ++ '\n' :: (List.replicate width ' ' ++ b)) (line index : Nat) (tokens : List Token) :
    ∃ line' index', (p.scan line index tokens).advance (a.length + 1 + width) =
      { p with rest := b, column := width }.scan line' index' tokens := by
  obtain ⟨column, line', index', first⟩ := p.advance_scan line index tokens a.length
  have there : p.rest.drop a.length = '\n' :: (List.replicate width ' ' ++ b) := by rw [here, List.drop_left]
  have indentation := advance_inline (p := { p with rest := List.replicate width ' ' ++ b, column := 0 }) rfl
    (by simp) (line' + 1) (index' + 1) tokens
  rw [List.length_replicate, Nat.zero_add] at indentation
  refine ⟨line' + 1, index' + 1 + width, ?_⟩
  rw [Scan.advance_add, Scan.advance_add, first, there, ← indentation]
  rfl

theorem gap_of_solid {t : Text} (solid : Solid t) (noComment : t.head? ≠ some '#') : Scan.gap false t = (0, false) := by
  obtain ⟨c, more, rfl, notBlank, notBreak⟩ := solid
  have other : c ≠ '#' := by simpa using noComment
  simp [Scan.gap, notBreak, beq_space_of_not_blank notBlank, other]

theorem gap_spaces (width : Nat) {t : Text} (ready : Scan.gap false t = (0, false)) :
    Scan.gap false (List.replicate width ' ' ++ t) = (width, false) := by
  induction width with
  | zero => exact ready
  | succ width ih =>
    rw [List.replicate_succ, List.cons_append, Scan.gap]
    simp [ih]

theorem Gives.space {p : Place} {v : Text} {ts : List Token}
    (gives : Gives { p with rest := v, column := p.column + 1 } ts) (here : p.rest = ' ' :: v)
    (ready : Scan.gap false v = (0, false)) : p.Gives ts := by
  intro line index tokens fuel enough
  have moved := advance_inline (p := p) (a := [' ']) here (by simp) line index tokens
  have gap : Scan.gap false p.rest = (1, false) := by
    rw [here]
    exact gap_spaces 1 ready
  have passes : (p.scan line index tokens).passGap =
      ({ p with rest := v, column := p.column + 1 }.scan line (index + 1) tokens).passGap := by
    rw [Scan.passGap_of_gap (s := scan { p with rest := v, column := p.column + 1 } _ _ _) ready, Scan.passGap,
      scan_rest, gap]
    exact moved
  rw [Scan.run_of_passGap passes]
  exact gives _ _ _ _ (by rw [here] at enough; simp at enough ⊢; omega)

theorem Gives.newLine {v : Text} {width column : Nat} {indent : Int} {outers : List Int} {allowed : Bool}
    {ts : List Token} (gives : Gives ⟨v, width, indent, outers, true⟩ ts) (ready : Scan.gap false v = (0, false)) :
    Gives ⟨'\n' :: (List.replicate width ' ' ++ v), column, indent, outers, allowed⟩ ts := by
  intro line index tokens fuel enough
  obtain ⟨line', index', moved⟩ := advance_newLine
    (p := ⟨'\n' :: (List.replicate width ' ' ++ v), column, indent, outers, allowed⟩) (a := []) rfl line index tokens
  have gap : Scan.gap false ('\n' :: (List.replicate width ' ' ++ v)) = (1 + width, true) := by
    rw [Scan.gap, gap_spaces width ready, Nat.add_comm]
    rfl
  have passes :
      (scan ⟨'\n' :: (List.replicate width ' ' ++ v), column, indent, outers, allowed⟩ line index tokens).passGap =
        (scan ⟨v, width, indent, outers, true⟩ line' index' tokens).passGap := by
    rw [Scan.passGap_of_gap (s := scan ⟨v, width, indent, outers, true⟩ _ _ _) ready, Scan.passGap]
    simp only [List.length_nil, Nat.zero_add] at moved
    simp only [scan, gap] at moved ⊢
    rw [moved]
    rfl
  rw [Scan.run_of_passGap passes]
  exact gives _ _ _ _ (by simp at enough ⊢; omega)

theorem unwind_scan {p : Place} {column indent : Int} {outers : List Int} {ends : List Token}
    (closes : Scan.closeBlocks column p.indent p.outers = (indent, outers, ends)) (line index : Nat)
    (tokens : List Token) :
    (p.scan line index tokens).unwind column = { p with indent, outers }.scan line index (tokens ++ ends) := by
  rw [Scan.unwind, scan_inFlow, scan_indent, scan_outerIndents, closes]
  rfl

/-- Where a token is indented less than the open blocks, these are closed first. -/
theorem Gives.unwind {p : Place} {indent : Int} {outers : List Int} {ends ts : List Token}
    (gives : Gives { p with indent, outers } ts)
    (closes : Scan.closeBlocks p.column p.indent p.outers = (indent, outers, ends)) (settled : indent ≤ p.column)
    (some : p.rest ≠ []) (ready : Scan.gap false p.rest = (0, false)) : p.Gives (ends ++ ts) := by
  obtain ⟨c, more, here⟩ := List.exists_cons_of_ne_nil some
  intro line index tokens fuel enough
  obtain ⟨fuel, rfl⟩ := Nat.exists_eq_succ_of_ne_zero (by omega : fuel ≠ 0)
  have found := gives line index (tokens ++ ends) (fuel + 1) enough
  rw [Scan.run_settled (s := scan { p with indent, outers } _ _ _) here ready rfl settled] at found
  rw [Scan.run_cons (s := p.scan _ _ _) here ready rfl, scan_column, unwind_scan closes, ← List.append_assoc]
  exact found

/-- At the end of the text all blocks end. -/
theorem gives_end {p : Place} {indent : Int} {outers : List Int} {ends : List Token} (here : p.rest = [])
    (closes : Scan.closeBlocks (-1) p.indent p.outers = (indent, outers, ends)) : p.Gives ends := by
  intro line index tokens fuel enough
  obtain ⟨fuel, rfl⟩ := Nat.exists_eq_succ_of_ne_zero (by omega : fuel ≠ 0)
  have ready : Scan.gap false p.rest = (0, false) := by rw [here, Scan.gap]
  have fresh : (p.scan line index tokens).dropStale = .ok (p.scan line index tokens) := rfl
  rw [Scan.run, Scan.passGap_of_gap (s := p.scan _ _ _) ready, fresh]
  simp only [bind, Except.bind, scan_rest, here, unwind_scan closes]
  rfl

/-- Where no block has to be closed, a place gives the tokens that are read at it and then those of the place behind. -/
theorem gives_of_token {p : Place} {c : Char} {more : Text} {ts : List Token} (found : List Token)
    (here : p.rest = c :: more) (ready : Scan.gap false p.rest = (0, false)) (settled : p.indent ≤ p.column)
    (reads : ∀ line index tokens fuel, p.rest.length < fuel → ∃ next line' index',
      (p.scan line index tokens).token fuel c more = .ok (scan next line' index' (tokens ++ found)) ∧
        next.rest.length < p.rest.length ∧ next.Gives ts) :
    p.Gives (found ++ ts) := by
  intro line index tokens fuel enough
  obtain ⟨fuel, rfl⟩ := Nat.exists_eq_succ_of_ne_zero (by omega : fuel ≠ 0)
  obtain ⟨next, line', index', read, shorter, gives⟩ := reads line index tokens (fuel + 1) enough
  rw [Scan.run_settled (s := p.scan _ _ _) here ready rfl settled, read, ← List.append_assoc]
  exact gives line' index' (tokens ++ found) fuel (by omega)

end Place

end Playground.Yaml
