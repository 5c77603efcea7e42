import Mathlib.Data.List.Induction
import Mathlib.Data.List.TakeDrop
import Mathlib.Data.List.TakeWhile
import Playground.Json.Reader
import Playground.Proofs.Decimal.Digits
import Playground.Proofs.Value.Steps
import Playground.Value.Display

namespace Playground

namespace Value

theorem entriesAreDisplayable_put {key value : Value} {es : List (Value × Value)} (ofKey : key.isDisplayable = true)
    (ofValue : value.isDisplayable = true) (displayable : entriesAreDisplayable es = true) :
    entriesAreDisplayable (put key value es) = true := by
  induction es with
  | nil => simp [put, entriesAreDisplayable, ofKey, ofValue]
  | cons e es ih =>
    obtain ⟨k, v⟩ := e
    simp only [entriesAreDisplayable, Bool.and_eq_true] at displayable
    obtain ⟨⟨ofK, ofV⟩, others⟩ := displayable
    rw [put]
    split
    · simp [entriesAreDisplayable, ofK, ofValue, others]
    · simp [entriesAreDisplayable, ofK, ofV, ih others]

theorem entriesAreDisplayable_ofPairs {pairs : List (Value × Value)}
    (displayable : entriesAreDisplayable pairs = true) : entriesAreDisplayable (ofPairs pairs) = true := by
  have onto : ∀ es, entriesAreDisplayable es = true →
      entriesAreDisplayable (pairs.foldl (fun es e => put e.1 e.2 es) es) = true := by
    induction pairs with
    | nil => exact fun es soFar => soFar
    | cons pair pairs ih =>
      intro es soFar
      simp only [entriesAreDisplayable, Bool.and_eq_true] at displayable
      obtain ⟨⟨ofKey, ofValue⟩, others⟩ := displayable
      exact ih others _ (entriesAreDisplayable_put ofKey ofValue soFar)
  exact onto [] rfl

end Value

namespace Decimal

theorem ofDigits_lt {ds : Text} (digits : ∀ c ∈ ds, c.isDigit = true) : ofDigits 10 ds < Nat.pow 10 ds.length := by
  induction ds using List.reverseRecOn with
  | nil => simp [ofDigits]
  | append_singleton ds c ih =>
    have fewer := ih fun d member => digits d (by simp [member])
    have last := digits c (by simp)
    simp only [Char.isDigit, Bool.and_eq_true, decide_eq_true_eq] at last
    have small : c.toNat - '0'.toNat ≤ 9 := by
      have upper : c.toNat ≤ '9'.toNat := last.2
      have nine : '9'.toNat = 57 := rfl
      have zero : '0'.toNat = 48 := rfl
      omega
    rw [ofDigits] at fewer
    have power : Nat.pow 10 (ds.length + 1) = Nat.pow 10 ds.length * 10 := rfl
    rw [ofDigits, List.foldl_append, List.foldl_cons, List.foldl_nil, List.length_append, List.length_singleton, power]
    omega

/-- A number is written with no more digits than it was read from. -/
theorem length_ofNat_ofDigits_le {ds : Text} (digits : ∀ c ∈ ds, c.isDigit = true) (some : ds ≠ []) :
    (Text.ofNat (ofDigits 10 ds)).length ≤ ds.length :=
  (Nat.length_toDigits_le_iff (by decide) (List.length_pos_iff.mpr some)).mpr (ofDigits_lt digits)

end Decimal

namespace Json

theorem of_wholePart {t whole rest : Text} (found : wholePart t = some (whole, rest)) :
    (∀ c ∈ whole, c.isDigit = true) ∧ whole ≠ [] := by
  unfold wholePart at found
  split at found
  · obtain ⟨rfl, _⟩ := Prod.mk.inj (Option.some.inj found)
    exact ⟨List.forall_mem_singleton.mpr rfl, List.cons_ne_nil _ _⟩
  · rw [digits, List.span_eq_takeWhile_dropWhile] at found
    split at found
    · contradiction
    · next notNone =>
      obtain ⟨rfl, rfl⟩ := Prod.mk.inj (Option.some.inj found)
      exact ⟨fun c member => List.mem_takeWhile_imp member, fun none => notNone _ (by rw [none])⟩

theorem isDisplayable_number {t rest : Text} {v : Value} (read : number t = .ok (v, rest)) :
    v.isDisplayable = true := by
  unfold number at read
  split at read
  split at read
  · contradiction
  next whole _ found =>
  split at read
  split at read
  split at read
  · split at read
    · contradiction
    · next few =>
      obtain ⟨rfl, _⟩ := Prod.mk.inj (Except.ok.inj read)
      obtain ⟨digits, some⟩ := of_wholePart found
      have short := Nat.le_trans (Decimal.length_ofNat_ofDigits_le digits some) (Nat.le_of_not_gt few)
      rw [Value.isDisplayable, decide_eq_true_eq]
      split
      · rwa [Int.natAbs_neg, Int.natAbs_natCast]
      · rwa [Int.natAbs_natCast]
  · obtain ⟨rfl, _⟩ := Prod.mk.inj (Except.ok.inj read)
    rfl

theorem isDisplayable_atom {t rest : Text} {v : Value} (read : atom t = .ok (v, rest)) : v.isDisplayable = true := by
  unfold atom at read
  split at read
  · next word w found =>
    obtain ⟨rfl, _⟩ := Prod.mk.inj (Except.ok.inj read)
    have words : ∀ l ∈ literals, l.2.isDisplayable = true := by simp [literals, Value.isDisplayable]
    exact words _ (List.mem_of_find?_eq_some found)
  · exact isDisplayable_number read

/-- What the reader gives with some fuel can be displayed. -/
structure GivesDisplayable (fuel : Nat) : Prop where
  value : ∀ {t rest v}, value fuel t = .ok (v, rest) → v.isDisplayable = true
  items : ∀ {t rest vs}, items fuel t = .ok (vs, rest) → Value.areDisplayable vs = true
  members : ∀ {t rest es}, members fuel t = .ok (es, rest) → Value.entriesAreDisplayable es = true

theorem givesDisplayable_zero : GivesDisplayable 0 where
  value := by rintro t rest v ⟨⟩
  items := by rintro t rest vs ⟨⟩
  members := by rintro t rest es ⟨⟩

theorem GivesDisplayable.succ {fuel : Nat} (less : GivesDisplayable fuel) : GivesDisplayable (fuel + 1) where
  value := by
    intro t rest v read
    rw [Json.value.eq_def] at read
    dsimp only at read
    split at read
    case h_1 => contradiction
    case h_2 =>
      obtain ⟨text, _, read⟩ := bind_eq_ok_iff.mp read
      obtain ⟨rfl, _⟩ := Prod.mk.inj (Except.ok.inj read)
      rfl
    case h_3 _ fuel' _ same =>
      -- The items are read with what is left of the fuel, and so are the members of an object.
      obtain rfl : fuel = fuel' := Nat.succ.inj same
      split at read
      · obtain ⟨rfl, _⟩ := Prod.mk.inj (Except.ok.inj read)
        rfl
      · obtain ⟨listed, items, read⟩ := bind_eq_ok_iff.mp read
        obtain ⟨rfl, _⟩ := Prod.mk.inj (Except.ok.inj read)
        rw [Value.isDisplayable]
        exact less.items items
    case h_4 _ fuel' _ same =>
      obtain rfl : fuel = fuel' := Nat.succ.inj same
      split at read
      · obtain ⟨rfl, _⟩ := Prod.mk.inj (Except.ok.inj read)
        rfl
      · obtain ⟨pairs, members, read⟩ := bind_eq_ok_iff.mp read
        obtain ⟨rfl, _⟩ := Prod.mk.inj (Except.ok.inj read)
        rw [Value.isDisplayable]
        exact Value.entriesAreDisplayable_ofPairs (less.members members)
    case h_5 => exact isDisplayable_atom read
  items := by
    intro t rest vs read
    rw [Json.items.eq_def] at read
    dsimp only at read
    obtain ⟨v, first, read⟩ := bind_eq_ok_iff.mp read
    have ofFirst := less.value first
    split at read
    · obtain ⟨rfl, _⟩ := Prod.mk.inj (Except.ok.inj read)
      simp [Value.areDisplayable, ofFirst]
    · obtain ⟨more, later, read⟩ := bind_eq_ok_iff.mp read
      obtain ⟨rfl, _⟩ := Prod.mk.inj (Except.ok.inj read)
      simp [Value.areDisplayable, ofFirst, less.items later]
    · contradiction
  members := by
    intro t rest es read
    rw [Json.members.eq_def] at read
    dsimp only at read
    split at read
    case h_1 => contradiction
    case h_2 _ fuel' _ same =>
      obtain rfl : fuel = fuel' := Nat.succ.inj same
      obtain ⟨name, _, read⟩ := bind_eq_ok_iff.mp read
      split at read
      case h_1 =>
        obtain ⟨v, first, read⟩ := bind_eq_ok_iff.mp read
        have ofFirst := less.value first
        split at read
        · obtain ⟨rfl, _⟩ := Prod.mk.inj (Except.ok.inj read)
          simp [Value.entriesAreDisplayable, Value.isDisplayable, ofFirst]
        · obtain ⟨more, later, read⟩ := bind_eq_ok_iff.mp read
          obtain ⟨rfl, _⟩ := Prod.mk.inj (Except.ok.inj read)
          simp [Value.entriesAreDisplayable, Value.isDisplayable, ofFirst, less.members later]
        · contradiction
      case h_2 => contradiction
    case h_3 => contradiction

theorem givesDisplayable (fuel : Nat) : GivesDisplayable fuel := by
  induction fuel with
  | zero => exact givesDisplayable_zero
  | succ fuel less => exact less.succ

/-- Every value that a JSON text writes can be displayed. -/
theorem isDisplayable_of_parse {t : Text} {v : Value} (read : parse t = .ok v) : v.isDisplayable = true := by
  unfold parse at read
  split at read
  · contradiction
  · obtain ⟨⟨found, rest⟩, first, read⟩ := bind_eq_ok_iff.mp read
    dsimp only at read
    split at read
    · obtain rfl := Except.ok.inj read
      exact (givesDisplayable _).value first
    · contradiction

end Json

end Playground
