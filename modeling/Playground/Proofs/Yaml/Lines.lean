import Playground.Proofs.Yaml.Node
import Playground.Proofs.Yaml.Rendered

namespace Playground.Yaml

/-- From the start of an indented line on, inside the given blocks, these tokens are found. -/
structure LineGives (width : Nat) (t : Text) (indent : Int) (outers : List Int) (ts : List Token) : Prop where
  indented : ∃ rest, t = List.replicate width ' ' ++ rest ∧ LineStarts width rest ∧
    Place.Gives ⟨rest, width, indent, outers, true⟩ ts

variable {width column next : Nat} {t tail name v content : Text} {plain : Bool} {indent : Int} {outers : List Int}
  {ts : List Token}

/-- At the end of the text all blocks end. -/
theorem lineGives_end {ends : List Token} {outermost : Int} {left : List Int}
    (closes : Scan.closeBlocks (-1) indent outers = (outermost, left, ends)) : LineGives 0 [] indent outers ends :=
  ⟨[], rfl, lineStarts_end, Place.gives_end rfl closes⟩

/-- A line that is indented less than the open blocks closes them. -/
theorem LineGives.unwind {inner : Int} {inners : List Int} {ends : List Token}
    (gives : LineGives width t indent outers ts)
    (closes : Scan.closeBlocks width inner inners = (indent, outers, ends)) (settled : indent ≤ width)
    (some : width < t.length) : LineGives width t inner inners (ends ++ ts) := by
  obtain ⟨rest, rfl, starts, gives⟩ := gives
  have nonempty : rest ≠ [] := by
    rintro rfl
    simp at some
  exact ⟨rest, rfl, starts, gives.unwind closes settled nonempty starts.ready⟩

/-- The tokens of a key, which starts a mapping if it is indented more than the block around it. -/
def keyTokens (column : Nat) (indent : Int) (name : Text) : List Token :=
  (if indent < column then [.blockMappingStart, .key] else [.key]) ++ [.scalar name true, .value]

/-- The blocks around a mapping with keys at a column. -/
def outersAt (column : Nat) (indent : Int) (outers : List Int) : List Int :=
  if indent < column then indent :: outers else outers

/-- A word that is short enough for a key. -/
structure IsKey (name : Text) : Prop where
  word : IsWord name
  short : name.length ≤ maxKeyLength

instance (name : Text) : Decidable (IsKey name) :=
  decidable_of_iff (IsWord name ∧ name.length ≤ maxKeyLength)
    ⟨fun ⟨word, short⟩ => ⟨word, short⟩, fun key => ⟨key.word, key.short⟩⟩

/-- A key and its value on a line. -/
theorem LineGives.entry (gives : LineGives next tail column (outersAt column indent outers) ts) (less : next ≤ column)
    (key : IsKey name) (settled : indent ≤ column)
    (value : StandsAsValue column (column + name.length + 2) v content plain) :
    LineGives column (List.replicate column ' ' ++ (name ++ ':' :: ' ' :: (v ++ '\n' :: tail))) indent outers
      (keyTokens column indent name ++ .scalar content plain :: ts) := by
  obtain ⟨rest, rfl, starts, gives⟩ := gives
  refine ⟨_, rfl, lineStarts_word column key.word _, ?_⟩
  have behind := value.gives starts (by omega) gives
  have atValue := Place.Gives.space (p := ⟨' ' :: (v ++ '\n' :: (List.replicate next ' ' ++ rest)),
    column + name.length + 1, column, outersAt column indent outers, false⟩) behind rfl (value.ready _)
  have atKey := atValue.key key.word key.short rfl settled
  rw [keyTokens, List.append_assoc]
  exact atKey

/-- A key with its value on the lines that follow. -/
theorem LineGives.nested (column : Nat) (indent : Int) (outers : List Int)
    (gives : LineGives next tail column (outersAt column indent outers) ts) (key : IsKey name)
    (settled : indent ≤ column) :
    LineGives column (List.replicate column ' ' ++ (name ++ ':' :: '\n' :: tail)) indent outers
      (keyTokens column indent name ++ ts) := by
  obtain ⟨rest, rfl, starts, gives⟩ := gives
  refine ⟨_, rfl, lineStarts_word column key.word _, ?_⟩
  have atKey := (gives.newLine starts.ready).key key.word key.short rfl settled
  rw [keyTokens, List.append_assoc]
  exact atKey

/-- The dash of an entry stands two columns in front of the entry. -/
theorem LineGives.dash (gives : LineGives (column + 2) (List.replicate (column + 2) ' ' ++ t) column outers ts) :
    LineGives column (List.replicate column ' ' ++ ('-' :: ' ' :: t)) column outers (.blockEntry :: ts) := by
  obtain ⟨rest, same, starts, gives⟩ := gives
  obtain rfl := List.append_cancel_left same
  refine ⟨_, rfl, lineStarts_dash column _, Place.Gives.dash ?_⟩
  exact Place.Gives.space (p := ⟨' ' :: t, column + 1, column, outers, true⟩) gives rfl starts.ready

/-- The entries of a sequence. The block of each is closed by the line that follows, which may be indented less than the
sequence itself. -/
theorem LineGives.items {α : Type} {text : α → Text} {tokens : α → List Token} {items : List α} {inner : Int}
    (column : Nat) (outers : List Int) (last : LineGives next tail inner (column :: outers) (.blockEnd :: ts))
    (less : next ≤ column) (some : items ≠ []) (inside : column < inner) (long : ∀ a ∈ items, column < (text a).length)
    (each : ∀ a ∈ items, ∀ next tail ts, LineGives next tail inner (column :: outers) ts → next ≤ column →
      LineGives column (text a ++ tail) column outers (.blockEntry :: (tokens a ++ ts))) :
    LineGives column (items.flatMap text ++ tail) column outers
      (items.flatMap (fun a => .blockEntry :: (tokens a ++ [.blockEnd])) ++ ts) := by
  induction items with
  | nil => exact absurd rfl some
  | cons a items ih =>
    have here := each a List.mem_cons_self
    cases items with
    | nil => simpa using here next tail (.blockEnd :: ts) last less
    | cons b items =>
      have later := ih (List.cons_ne_nil b items) (fun c member => long c (List.mem_cons_of_mem a member))
        fun c member => each c (List.mem_cons_of_mem a member)
      have closes : Scan.closeBlocks column inner (column :: outers) = ((column : Int), outers, [.blockEnd]) := by
        rw [Scan.closeBlocks, if_pos inside, Scan.closeBlocks_of_le (Int.le_refl _)]
      have enough := long b (by simp)
      have closed := later.unwind closes (Int.le_refl _) (by simp; omega)
      simpa using here column _ _ closed (Nat.le_refl column)

theorem keyTokens_first (opens : indent < column) (value : List Token) :
    keyTokens column indent name ++ value = .blockMappingStart :: keyAnd name value := by
  rw [keyTokens, if_pos opens]
  rfl

/-- A text is read as the value that its tokens describe, if all its characters are allowed. -/
theorem parse_of_lineGives {entries : List Entry} {v : Value}
    (chars : ∀ c ∈ t, isAllowed c = true ∧ c ≠ '\r') (noMark : (t.map unified).head? ≠ some '\uFEFF')
    (gives : LineGives 0 (t.map unified) (-1) [] (mappingTokens entries))
    (describes : Describes (mappingTokens entries) v) : parse t = .ok v := by
  obtain ⟨rest, same, _, gives⟩ := gives
  obtain rfl : t.map unified = rest := same
  have allowed : t.all isAllowed = true := List.all_eq_true.mpr fun c member => (chars c member).1
  have unify : unifyBreaks t = t.map unified := unifyBreaks_eq_map fun member => (chars _ member).2 rfl
  have tokens : Token.ofText (t.map unified) = .ok (mappingTokens entries) := by
    have found := gives 0 0 [] ((t.map unified).length + 1) (Nat.lt_succ_self _)
    rw [Token.ofText, beq_eq_false_iff_ne.mpr noMark]
    exact found
  obtain ⟨_, root, value, reads⟩ := describes
  have node : Node.ofTokens (mappingTokens entries) = .ok (some root) := by
    have read := reads false (2 * (mappingTokens entries).length + 2) [] (by omega)
    rw [List.append_nil] at read
    obtain ⟨more, mapping⟩ : ∃ more, mappingTokens entries = .blockMappingStart :: more := ⟨_, rfl⟩
    rw [mapping] at read ⊢
    simp only [Node.ofTokens, Node.next, read, Node.dropEnds, bind, Except.bind, pure, Except.pure]
    rfl
  rw [parse, if_pos allowed, unify, tokens]
  simp [node, value, bind, Except.bind]

end Playground.Yaml
