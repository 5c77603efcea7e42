import Mathlib.Data.List.Forall2
import Playground.Proofs.Json.Reads
import Playground.Proofs.Value.Entries

namespace Playground.Json

theorem skipSpace_comma (rest : Text) : skipSpace (',' :: rest) = ',' :: rest := rfl

theorem opens_join {t : Text} (opens : Opens t) (ts : List Text) :
    Opens (Text.joinWith ", ".toList (t :: ts)) := by
  obtain ⟨c, rest, rfl, front⟩ := opens
  cases ts with
  | nil => exact ⟨c, rest, rfl, front⟩
  | cons u ts => exact ⟨c, rest ++ ", ".toList ++ Text.joinWith ", ".toList (u :: ts), rfl, front⟩

theorem length_join_cons (t u : Text) (ts : List Text) : (Text.joinWith ", ".toList (t :: u :: ts)).length =
    t.length + 2 + (Text.joinWith ", ".toList (u :: ts)).length := by
  simp only [Text.joinWith, List.length_append]
  rfl

theorem join_cons_append (t u : Text) (ts : List Text) (rest : Text) :
    Text.joinWith ", ".toList (t :: u :: ts) ++ rest =
      t ++ ',' :: ' ' :: (Text.joinWith ", ".toList (u :: ts) ++ rest) := by
  simp only [Text.joinWith, List.append_assoc]
  rfl

theorem items_join {ts : List Text} {vs : List Value} (reads : List.Forall₂ Reads ts vs) (some : ts ≠ [])
    {fuel : Nat} (enough : 2 * (Text.joinWith ", ".toList ts).length < fuel) (rest : Text) :
    items fuel (Text.joinWith ", ".toList ts ++ ']' :: rest) = .ok (vs, rest) := by
  induction reads generalizing fuel with
  | nil => contradiction
  | @cons t v ts vs head tail ih =>
    obtain ⟨fuel, rfl⟩ := Nat.exists_eq_succ_of_ne_zero (by omega : fuel ≠ 0)
    cases tail with
    | nil =>
      have closes : Closes (']' :: rest) := by simp [Closes]
      rw [Text.joinWith] at enough ⊢
      rw [items, head.value fuel _ (by omega) closes]
      rfl
    | @cons u w ts vs next more =>
      rw [length_join_cons] at enough
      have closes (after : Text) : Closes (',' :: after) := by simp [Closes]
      have others : items fuel (Text.joinWith ", ".toList (u :: ts) ++ ']' :: rest) = .ok (w :: vs, rest) :=
        ih (by simp) (by omega)
      rw [join_cons_append, items, head.value fuel _ (by omega) (closes _)]
      simp only [bind, Except.bind, skipSpace_comma, (opens_join next.opens ts).skipSpace_space, others]
      rfl

theorem value_list (fuel : Nat) {t : Text} (opens : Opens t) (rest : Text) :
    value (fuel + 1) ('[' :: (t ++ rest)) =
      (do let (vs, rest') ← items fuel (t ++ rest); return (.list vs, rest')) := by
  have kept := opens.skipSpace rest
  obtain ⟨c, more, rfl, _, notEnd, _⟩ := opens
  rw [value, kept]
  split
  · rename_i same
    exact absurd (List.cons.inj same).1 notEnd
  · rfl

theorem reads_list {ts : List Text} {vs : List Value} (reads : List.Forall₂ Reads ts vs) :
    Reads ('[' :: Text.joinWith ", ".toList ts ++ [']']) (.list vs) where
  opens := ⟨'[', Text.joinWith ", ".toList ts ++ [']'], rfl, by decide, by decide, by decide, by decide⟩
  value := by
    intro fuel rest enough _
    simp only [List.cons_append, List.length_cons, List.length_append, List.length_nil, List.append_assoc,
      List.nil_append] at enough ⊢
    obtain ⟨fuel, rfl⟩ := Nat.exists_eq_succ_of_ne_zero (by omega : fuel ≠ 0)
    cases reads with
    | nil => rfl
    | @cons t v ts vs head tail =>
      have parts := items_join (.cons head tail) (by simp) (by omega : 2 * _ < fuel) rest
      rw [Nat.succ_eq_add_one, value_list fuel (opens_join head.opens ts), parts]
      rfl

/-- A text reads as an entry: a name in quotes, a colon, a space and a text that reads as the value. -/
def ReadsEntry (t : Text) (entry : Text × Value) : Prop :=
  ∃ written, t = renderString entry.1 ++ ": ".toList ++ written ∧ Reads written entry.2

theorem ReadsEntry.opens {t : Text} {entry : Text × Value} (reads : ReadsEntry t entry) : Opens t := by
  obtain ⟨written, rfl, _⟩ := reads
  exact ⟨'"', _, rfl, by decide, by decide, by decide, by decide⟩

/-- What reading members does once the first one is read. -/
theorem members_entry {t : Text} {k : Text} {v : Value} (reads : ReadsEntry t (k, v)) {fuel : Nat}
    (enough : 2 * t.length ≤ fuel) {c : Char} {rest : Text} (closes : Closes (c :: rest)) :
    members (fuel + 1) (t ++ c :: rest) = match skipSpace (c :: rest) with
      | '}' :: rest' => .ok ([(.str k, v)], rest')
      | ',' :: rest' => do
        let (more, rest'') ← members fuel (skipSpace rest')
        return ((.str k, v) :: more, rest'')
      | other => faultAt .expectedComma other := by
  obtain ⟨written, rfl, readsValue⟩ := reads
  have length := length_le_flatMap_escapeChar k
  simp only [renderString, List.length_cons, List.length_append, List.length_nil] at enough
  have shape : renderString k ++ ": ".toList ++ written ++ c :: rest =
      '"' :: (k.flatMap escapeChar ++ '"' :: ':' :: ' ' :: (written ++ c :: rest)) := by
    simp only [renderString, List.cons_append, List.append_assoc]
    rfl
  have colon (more : Text) : skipSpace (':' :: more) = ':' :: more := rfl
  rw [shape, members, string_flatMap_escapeChar _ _ (by omega)]
  simp only [bind, Except.bind, colon, readsValue.opens.skipSpace_space,
    readsValue.value fuel _ (by omega) closes]
  rfl

theorem members_join {ts : List Text} {entries : List (Text × Value)} (reads : List.Forall₂ ReadsEntry ts entries)
    (some : ts ≠ []) {fuel : Nat} (enough : 2 * (Text.joinWith ", ".toList ts).length < fuel) (rest : Text) :
    members fuel (Text.joinWith ", ".toList ts ++ '}' :: rest) = .ok (Value.keyed entries, rest) := by
  induction reads generalizing fuel with
  | nil => contradiction
  | @cons t entry ts entries head tail ih =>
    obtain ⟨fuel, rfl⟩ := Nat.exists_eq_succ_of_ne_zero (by omega : fuel ≠ 0)
    cases tail with
    | nil =>
      have closes : Closes ('}' :: rest) := by simp [Closes]
      rw [Text.joinWith] at enough ⊢
      rw [Nat.succ_eq_add_one, members_entry head (by omega) closes]
      rfl
    | @cons u next ts entries readsNext more =>
      rw [length_join_cons] at enough
      have closes (after : Text) : Closes (',' :: after) := by simp [Closes]
      have others : members fuel (Text.joinWith ", ".toList (u :: ts) ++ '}' :: rest) =
          .ok (Value.keyed (next :: entries), rest) := ih (by simp) (by omega)
      rw [join_cons_append, Nat.succ_eq_add_one, members_entry head (by omega) (closes _), skipSpace_comma]
      simp only [bind, Except.bind, (opens_join readsNext.opens ts).skipSpace_space, others]
      rfl

theorem value_map (fuel : Nat) {t : Text} (opens : Opens t) (rest : Text) :
    value (fuel + 1) ('{' :: (t ++ rest)) =
      (do let (pairs, rest') ← members fuel (t ++ rest); return (.map (Value.ofPairs pairs), rest')) := by
  have kept := opens.skipSpace rest
  obtain ⟨c, more, rfl, _, _, notEnd, _⟩ := opens
  rw [value, kept]
  split
  · rename_i same
    exact absurd (List.cons.inj same).1 notEnd
  · rfl

theorem reads_map {ts : List Text} {entries : List (Text × Value)} (reads : List.Forall₂ ReadsEntry ts entries)
    (nodup : (entries.map (·.1)).Nodup) :
    Reads ('{' :: Text.joinWith ", ".toList ts ++ ['}']) (.map (Value.keyed entries)) where
  opens := ⟨'{', Text.joinWith ", ".toList ts ++ ['}'], rfl, by decide, by decide, by decide, by decide⟩
  value := by
    intro fuel rest enough _
    simp only [List.cons_append, List.length_cons, List.length_append, List.length_nil, List.append_assoc,
      List.nil_append] at enough ⊢
    obtain ⟨fuel, rfl⟩ := Nat.exists_eq_succ_of_ne_zero (by omega : fuel ≠ 0)
    cases reads with
    | nil => rfl
    | @cons t entry ts entries head tail =>
      have parts := members_join (.cons head tail) (by simp) (by omega : 2 * _ < fuel) rest
      rw [Nat.succ_eq_add_one, value_map fuel (opens_join head.opens ts), parts]
      simp only [bind, Except.bind, Value.ofPairs_keyed nodup]
      rfl

theorem parse_of_reads {t : Text} {v : Value} (reads : Reads t v) : parse t = .ok v := by
  have kept := reads.opens.skipSpace []
  have read := reads.value (2 * t.length + 2) [] (by omega) (by simp [Closes])
  obtain ⟨c, rest, rfl, _, _, _, notMark⟩ := reads.opens
  rw [List.append_nil] at kept read
  rw [parse]
  · simp only [kept, read, bind, Except.bind]
    rfl
  · simpa using notMark

end Playground.Json
