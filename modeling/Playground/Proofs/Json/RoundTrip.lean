import Mathlib.Data.List.Perm.Basic
import Playground.Proofs.Json.Containers
import Playground.Proofs.Value.Steps

namespace Playground.Json

def Returns (v w : Value) : Prop := ∃ t, render v = .ok t ∧ Reads t w

theorem Returns.parse {v w : Value} (returns : Returns v w) : ∃ t, render v = .ok t ∧ parse t = .ok w := by
  obtain ⟨t, written, reads⟩ := returns
  exact ⟨t, written, parse_of_reads reads⟩

theorem returns_null : Returns .null .null := ⟨"null".toList, rfl, reads_null⟩

theorem returns_str (t : Text) : Returns (.str t) (.str t) := ⟨renderString t, rfl, reads_str t⟩

theorem returns_int {n : Int} (short : Decimal.IsShort n) : Returns (.int n) (.int n) := by
  have displayable : (Value.int n).isDisplayable = true := decide_eq_true short
  exact ⟨Text.ofInt n, by rw [render, renderInt, if_pos displayable], reads_int short⟩

/-- Where every element leads somewhere in two steps, there is a list of the places between. -/
theorem exists_between {α β γ : Type} {first : α → β → Prop} {second : β → γ → Prop} {as : List α} {cs : List γ}
    (each : List.Forall₂ (fun a c => ∃ b, first a b ∧ second b c) as cs) :
    ∃ bs, List.Forall₂ first as bs ∧ List.Forall₂ second bs cs := by
  induction each with
  | nil => exact ⟨[], .nil, .nil⟩
  | cons head _ ih =>
    obtain ⟨b, one, two⟩ := head
    obtain ⟨bs, ones, twos⟩ := ih
    exact ⟨b :: bs, .cons one ones, .cons two twos⟩

theorem renderItems_eq_mapM (vs : List Value) : renderItems vs = vs.mapM render := by
  induction vs with
  | nil => rfl
  | cons v vs ih => rw [renderItems, ih, List.mapM_cons]

theorem returns_list {vs ws : List Value} (each : List.Forall₂ Returns vs ws) :
    Returns (.list vs) (.list ws) := by
  obtain ⟨ts, written, reads⟩ := exists_between each
  refine ⟨_, ?_, reads_list reads⟩
  rw [render, renderItems_eq_mapM, mapM_eq_ok_iff.mpr written]
  rfl

/-- A list whose elements are made of something that can be read off what comes back. -/
theorem returns_list_map {α ε : Type} {make : α → Value} {read : Value → Except ε α} {as : List α}
    (each : ∀ a ∈ as, ∃ w, Returns (make a) w ∧ read w = .ok a) :
    ∃ ws, Returns (.list (as.map make)) (.list ws) ∧ ws.mapM read = .ok as := by
  have steps : List.Forall₂ (fun a b => ∃ w, Returns (make a) w ∧ read w = .ok b) as as :=
    List.forall₂_same.mpr each
  obtain ⟨ws, returns, reads⟩ := exists_between steps
  exact ⟨ws, returns_list (List.forall₂_map_left_iff.mpr returns), mapM_eq_ok_iff.mpr reads⟩

theorem renderValues_keyed (entries : List (Text × Value)) :
    renderValues (Value.keyed entries) = entries.map fun e => (.str e.1, render e.2) := by
  induction entries with
  | nil => rfl
  | cons entry entries ih =>
    rw [Value.keyed, List.map_cons, renderValues, List.map_cons, ← ih]
    rfl

theorem returns_map {vs ws : List (Text × Value)}
    (each : List.Forall₂ (fun v w => v.1 = w.1 ∧ Returns v.2 w.2) vs ws) (nodup : (ws.map (·.1)).Nodup) :
    ∃ order, order.Perm ws ∧ Returns (.map (Value.keyed vs)) (.map (Value.keyed order)) := by
  have written : List.Forall₂ (fun entry w => ∃ t, entry = (.str w.1, .ok t) ∧ Reads t w.2)
      (renderValues (Value.keyed vs)) ws := by
    rw [renderValues_keyed, List.forall₂_map_left_iff]
    refine each.imp ?_
    rintro v w ⟨key, t, rendered, reads⟩
    exact ⟨t, by rw [key, rendered], reads⟩
  have texts : ∀ entry ∈ renderValues (Value.keyed vs), ∃ t, entry.1 = .str t := by
    intro entry member
    rw [renderValues_keyed, List.mem_map] at member
    obtain ⟨v, _, rfl⟩ := member
    exact ⟨v.1, rfl⟩
  obtain ⟨sorted, sort, perm⟩ := Value.sortBy_perm texts
  obtain ⟨order, inOrder, permOrder⟩ := List.perm_comp_forall₂ perm written
  have steps : List.Forall₂ (fun entry w => ∃ t, renderEntry entry = .ok t ∧ ReadsEntry t w) sorted order := by
    refine inOrder.imp ?_
    rintro entry w ⟨t, rfl, reads⟩
    exact ⟨_, rfl, t, rfl, reads⟩
  obtain ⟨ts, rendered, reads⟩ := exists_between steps
  have distinct : (order.map (·.1)).Nodup := (permOrder.map _).nodup_iff.mpr nodup
  refine ⟨order, permOrder, _, ?_, reads_map reads distinct⟩
  rw [render]
  simp only [sort, bind, Except.bind, mapM_eq_ok_iff.mpr rendered]
  rfl

/-- What comes back of a mapping has under each key what came back of the value there. -/
theorem returns_map_lookup (es : List (Text × Value × Value)) (each : ∀ e ∈ es, Returns e.2.1 e.2.2)
    (nodup : (es.map (·.1)).Nodup) : ∃ w, Returns (.map (Value.keyed (es.map fun e => (e.1, e.2.1)))) w ∧
      ∀ e ∈ es, w.lookup e.1 = .ok e.2.2 := by
  have pairs : List.Forall₂ (fun v w => v.1 = w.1 ∧ Returns v.2 w.2) (es.map fun e => (e.1, e.2.1))
      (es.map fun e => (e.1, e.2.2)) := by
    rw [List.forall₂_map_left_iff, List.forall₂_map_right_iff, List.forall₂_same]
    intro e member
    exact ⟨rfl, each e member⟩
  have keys : ((es.map fun e => (e.1, e.2.2)).map (·.1)).Nodup := by rwa [List.map_map]
  obtain ⟨order, perm, returns⟩ := returns_map pairs keys
  have distinct : (order.map (·.1)).Nodup := (perm.map _).nodup_iff.mpr keys
  refine ⟨_, returns, ?_⟩
  intro e member
  exact Value.lookup_keyed distinct (perm.mem_iff.mpr (List.mem_map_of_mem member))

end Playground.Json
