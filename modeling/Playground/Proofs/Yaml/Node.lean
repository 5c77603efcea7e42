import Playground.Proofs.Value.Entries
import Playground.Yaml.Reader

namespace Playground.Yaml

/-- These tokens are a node with that value, whatever follows. -/
structure Describes (ts : List Token) (v : Value) : Prop where
  starts : ∀ rest, Node.next [.blockEntry, .key, .value, .blockEnd] (ts ++ rest) = false
  node : ∃ n : Node, n.toValue = .ok v ∧ ∀ bare fuel rest, 2 * ts.length < fuel →
    Node.read false bare fuel (ts ++ rest) = .ok (n, rest)

/-- Behind a key, these tokens are a node with that value, if another key or the end of the mapping follows. -/
structure DescribesValue (ts : List Token) (v : Value) : Prop where
  starts : ∀ rest, Node.next [.key, .value, .blockEnd] (ts ++ rest) = false
  node : ∃ n : Node, n.toValue = .ok v ∧ ∀ fuel rest, 2 * ts.length < fuel →
    Node.next [.key, .blockEnd] rest = true → Node.read false true fuel (ts ++ rest) = .ok (n, rest)

theorem Describes.value {ts : List Token} {v : Value} (describes : Describes ts v) : DescribesValue ts v := by
  obtain ⟨starts, n, value, reads⟩ := describes
  refine ⟨?_, n, value, fun fuel rest enough _ => reads true fuel rest enough⟩
  intro rest
  have none := starts rest
  cases here : ts ++ rest with
  | nil => rfl
  | cons t more =>
    simp only [here, Node.next, List.contains_cons, Bool.or_eq_false_iff] at none ⊢
    exact none.2

theorem describes_scalar {t : Text} {plain : Bool} {v : Value} (value : scalarValue t plain = .ok v) :
    Describes [.scalar t plain] v := by
  refine ⟨fun rest => rfl, .scalar t plain, value, ?_⟩
  intro bare fuel rest enough
  obtain ⟨fuel, rfl⟩ := Nat.exists_eq_succ_of_ne_zero (by simp at enough; omega : fuel ≠ 0)
  rfl

/-- An entry of a block mapping: its key, the tokens of its value, and the value itself. -/
structure Entry where
  name : Text
  tokens : List Token
  value : Value

/-- A key and what follows. -/
def keyAnd (name : Text) (ts : List Token) : List Token := .key :: .scalar name true :: .value :: ts

/-- The tokens of entries. -/
def entriesTokens (entries : List Entry) : List Token := entries.flatMap fun e => keyAnd e.name e.tokens

/-- The tokens of a block mapping up to the end of its block. -/
def openTokens (entries : List Entry) : List Token := .blockMappingStart :: entriesTokens entries

/-- The tokens of a block mapping. -/
def mappingTokens (entries : List Entry) : List Token := openTokens entries ++ [.blockEnd]

/-- The mapping that entries make up. -/
def mappingOf (entries : List Entry) : List (Text × Value) := entries.map fun e => (e.name, e.value)

/-- A key that is a text is neither a sign nor another value. -/
theorem toPairs_cons {name : Text} (means : Meaning.ofText name = .text) {n : Node} {v : Value}
    (value : n.toValue = .ok v) {rest : List (Node × Node)} {own : List (Value × Value)}
    (pairs : toPairs rest = .ok ([], own)) :
    toPairs ((.scalar name true, n) :: rest) = .ok ([], (.str name, v) :: own) := by
  have noMerge : (name == "<<".toList) = false := by
    refine beq_eq_false_iff_ne.mpr ?_
    rintro rfl
    exact absurd means (by decide)
  have noDefault : name ≠ ['='] := by
    rintro rfl
    exact absurd means (by decide)
  have isText : scalarValue name true = .ok (.str name) := by
    rw [scalarValue, means]
    rfl
  rw [toPairs, Node.isMerge, noMerge]
  simp only [Bool.and_false, Bool.false_eq_true, if_false]
  split
  · rename_i same
    exact absurd (Node.scalar.inj same).1 noDefault
  · simp [Node.toValue, isText, value, pairs, asKey, Value.isKey, bind, Except.bind, pure, Except.pure]

/-- The entries of a block mapping, up to the end of its block. -/
theorem blockEntries_entriesTokens {entries : List Entry} (means : ∀ e ∈ entries, Meaning.ofText e.name = .text)
    (each : ∀ e ∈ entries, DescribesValue e.tokens e.value) :
    ∃ nodes, toPairs nodes = .ok ([], Value.keyed (mappingOf entries)) ∧ ∀ fuel rest,
      2 * (entriesTokens entries).length < fuel →
        Node.blockEntries fuel (entriesTokens entries ++ .blockEnd :: rest) = .ok (nodes, rest) := by
  induction entries with
  | nil =>
    refine ⟨[], rfl, ?_⟩
    intro fuel rest enough
    obtain ⟨fuel, rfl⟩ := Nat.exists_eq_succ_of_ne_zero (by omega : fuel ≠ 0)
    rfl
  | cons e entries ih =>
    obtain ⟨nodes, pairs, reads⟩ := ih (fun d member => means d (List.mem_cons_of_mem e member))
      fun d member => each d (List.mem_cons_of_mem e member)
    obtain ⟨starts, n, value, readsValue⟩ := each e List.mem_cons_self
    refine ⟨(.scalar e.name true, n) :: nodes, toPairs_cons (means e List.mem_cons_self) value pairs, ?_⟩
    intro fuel rest enough
    have written : entriesTokens (e :: entries) = keyAnd e.name (e.tokens ++ entriesTokens entries) := rfl
    simp only [written, keyAnd, List.length_cons, List.length_append] at enough
    obtain ⟨fuel, rfl⟩ : ∃ more, fuel = more + 2 := ⟨fuel - 2, by omega⟩
    rw [written, keyAnd, List.cons_append, List.cons_append, List.cons_append, List.append_assoc]
    -- Another entry or the end of the block follows the value.
    have follows : Node.next [.key, .blockEnd] (entriesTokens entries ++ .blockEnd :: rest) = true := by
      cases entries <;> rfl
    have noKey (more : List Token) : Node.next [.key, .value, .blockEnd] (.scalar e.name true :: more) = false := rfl
    have readKey (more : List Token) :
        Node.read false true (fuel + 1) (.scalar e.name true :: more) = .ok (.scalar e.name true, more) := rfl
    have readValue := readsValue (fuel + 1) _ (by omega) follows
    have readRest := reads (fuel + 1) rest (by omega)
    rw [Node.blockEntries]
    simp [Node.orAbsent, noKey, readKey, Node.valueOrAbsent, starts, readValue, readRest, bind, Except.bind, pure,
      Except.pure]

/-- A block mapping is the mapping of its entries. -/
theorem describes_mapping {entries : List Entry} (names : List Text) (named : entries.map (·.name) = names)
    (means : ∀ name ∈ names, Meaning.ofText name = .text) (nodup : names.Nodup)
    (each : ∀ e ∈ entries, DescribesValue e.tokens e.value) :
    Describes (mappingTokens entries) (.map (Value.keyed (mappingOf entries))) := by
  subst named
  obtain ⟨nodes, pairs, reads⟩ :=
    blockEntries_entriesTokens (fun e member => means e.name (List.mem_map.mpr ⟨e, member, rfl⟩)) each
  have distinct : ((mappingOf entries).map (·.1)).Nodup := by
    rwa [mappingOf, List.map_map]
  refine ⟨fun rest => rfl, .mapping nodes, ?_, ?_⟩
  · rw [Node.toValue, pairs]
    simp [bind, Except.bind, pure, Except.pure, Value.ofPairs_keyed distinct]
  · intro bare fuel rest enough
    simp only [mappingTokens, openTokens, List.length_append, List.length_cons] at enough
    obtain ⟨fuel, rfl⟩ := Nat.exists_eq_succ_of_ne_zero (by omega : fuel ≠ 0)
    have readEntries := reads fuel rest (by omega)
    rw [mappingTokens, openTokens, List.append_assoc, List.cons_append, Node.read]
    simp [readEntries, bind, Except.bind, pure, Except.pure]

/-- The items of a sequence without a block of its own, up to something that is no item. -/
theorem bareItems_flatMap {α : Type} {items : List α} {tokens : α → List Token} {value : α → Value}
    (each : ∀ a ∈ items, Describes (tokens a) (value a)) :
    ∃ nodes, toValues nodes = .ok (items.map value) ∧ ∀ fuel rest,
      2 * (items.flatMap fun a => .blockEntry :: tokens a).length ≤ fuel + 1 → Node.next [.key, .blockEnd] rest = true →
        Node.bareItems (fuel + 1) ((items.flatMap fun a => .blockEntry :: tokens a) ++ rest) = .ok (nodes, rest) := by
  induction items with
  | nil =>
    refine ⟨[], rfl, ?_⟩
    intro fuel rest _ ends
    cases rest with
    | nil => contradiction
    | cons t rest =>
      have other : t = .key ∨ t = .blockEnd := by simpa [Node.next] using ends
      rcases other with rfl | rfl <;> rfl
  | cons a items ih =>
    obtain ⟨nodes, values, reads⟩ := ih fun b member => each b (List.mem_cons_of_mem a member)
    obtain ⟨starts, n, value, readsItem⟩ := each a List.mem_cons_self
    refine ⟨n :: nodes, ?_, ?_⟩
    · rw [toValues, value, values]
      rfl
    · intro fuel rest enough ends
      simp only [List.flatMap_cons, List.cons_append, List.append_assoc, List.length_cons, List.length_append]
        at enough ⊢
      obtain ⟨fuel, rfl⟩ := Nat.exists_eq_succ_of_ne_zero (by omega : fuel ≠ 0)
      have readItem := readsItem false (fuel + 1) ((items.flatMap fun a => .blockEntry :: tokens a) ++ rest) (by omega)
      have readRest := reads fuel rest (by omega) ends
      rw [Node.bareItems]
      simp [Node.orAbsent, starts, readItem, readRest, bind, Except.bind, pure, Except.pure]

/-- A sequence without a block of its own is the list of its items. -/
theorem describesValue_sequence {α : Type} {items : List α} {tokens : α → List Token} {value : α → Value}
    (some : items ≠ []) (each : ∀ a ∈ items, Describes (tokens a) (value a)) :
    DescribesValue (items.flatMap fun a => .blockEntry :: tokens a) (.list (items.map value)) := by
  obtain ⟨nodes, values, reads⟩ := bareItems_flatMap each
  obtain ⟨a, items, rfl⟩ := List.exists_cons_of_ne_nil some
  refine ⟨fun rest => rfl, .sequence nodes, ?_, ?_⟩
  · rw [Node.toValue, values]
    rfl
  · intro fuel rest enough ends
    obtain ⟨fuel, rfl⟩ : ∃ more, fuel = more + 2 := ⟨fuel - 2, by simp at enough; omega⟩
    have readItems := reads fuel rest (by omega) ends
    rw [List.flatMap_cons, List.cons_append, List.cons_append] at readItems ⊢
    simp only [Node.read, readItems, if_true, bind, Except.bind, pure, Except.pure]

end Playground.Yaml
