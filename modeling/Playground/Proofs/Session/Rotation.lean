import Mathlib.Data.List.Rotate
import Playground.Session

namespace Playground

/-- The example that is loaded after `k` others. -/
def Settings.rotating (s : Settings) (k : Nat) : Text :=
  s.examples.get ⟨k % s.examples.length, Nat.mod_lt k (Session.length_examples_pos s)⟩

theorem Settings.getElem?_rotating (s : Settings) (k : Nat) :
    s.examples[k % s.examples.length]? = some (s.rotating k) :=
  List.getElem?_eq_getElem (Nat.mod_lt k (Session.length_examples_pos s))

namespace Session

/-- What can be asked of a session. -/
inductive Call where
  | load
  | run (source : Text)
  | clear

/-- What a call returns. -/
inductive Answer where
  | program (t : Text)
  | run (r : Run)
  | records (rs : List Record)

/-- What a call returns, and the session that it leaves. -/
def step (s : Session) : Call → Answer × Session
  | .load => (.program s.current, s.advance)
  | .run source => (.run (s.run source), s)
  | .clear => (.records cleared, s)

/-- The session after some calls. -/
def after (s : Session) (calls : List Call) : Session := calls.foldl (fun s call => (s.step call).2) s

/-- What some calls return, one after the other. -/
def answers (s : Session) : List Call → List Answer
  | [] => []
  | call :: calls => (s.step call).1 :: (s.step call).2.answers calls

/-- The positions of the examples that some calls load. -/
def positions (s : Session) : List Call → List Nat
  | [] => []
  | .load :: calls => s.next :: s.advance.positions calls
  | call :: calls => (s.step call).2.positions calls

def Call.isLoad : Call → Bool
  | load => true
  | _ => false

/-- How many of some calls are loads. -/
def loads (calls : List Call) : Nat := calls.countP Call.isLoad

/-- What a call returns after `k` loads, told from the settings alone. -/
def Call.answer (settings : Settings) (k : Nat) : Call → Answer
  | load => .program (settings.rotating k)
  | run source => .run (.ofSource settings.indentUnit source)
  | clear => .records [.ofNotice .cleared]

/-- A session with the given settings that has loaded `k` examples. -/
structure HasLoaded (settings : Settings) (k : Nat) (s : Session) : Prop where
  settings_eq : s.settings = settings
  next_eq : s.next.val = k % settings.examples.length

variable {settings : Settings} {k : Nat} {s : Session}

theorem hasLoaded_start (settings : Settings) : HasLoaded settings 0 (start settings) := ⟨rfl, (Nat.zero_mod _).symm⟩

theorem HasLoaded.current (loaded : HasLoaded settings k s) : s.current = settings.rotating k := by
  have there : s.settings.examples[s.next.val]? = some s.current := List.getElem?_eq_getElem s.next.isLt
  rw [loaded.next_eq, loaded.settings_eq] at there
  exact Option.some.inj (there.symm.trans (settings.getElem?_rotating k))

theorem HasLoaded.loading (loaded : HasLoaded settings k s) :
    s.loading = .exampleLoaded (k % settings.examples.length + 1) settings.examples.length := by
  rw [Session.loading, loaded.next_eq, loaded.settings_eq]

theorem HasLoaded.advance (loaded : HasLoaded settings k s) : HasLoaded settings (k + 1) s.advance := by
  obtain ⟨rfl, next⟩ := loaded
  refine ⟨rfl, ?_⟩
  calc
    (s.next.val + 1) % s.settings.examples.length = (k % s.settings.examples.length + 1) % s.settings.examples.length := by
      rw [next]
    _ = (k + 1) % s.settings.examples.length := Nat.mod_add_mod k _ 1

theorem loads_cons (call : Call) (calls : List Call) : loads (call :: calls) = loads [call] + loads calls := by
  rw [loads, loads, loads, ← List.countP_append, List.singleton_append]

theorem HasLoaded.step (loaded : HasLoaded settings k s) (call : Call) :
    (s.step call).1 = call.answer settings k ∧ HasLoaded settings (k + loads [call]) (s.step call).2 := by
  cases call with
  | load => exact ⟨congrArg Answer.program loaded.current, loaded.advance⟩
  | run source =>
    refine ⟨?_, loaded⟩
    rw [Session.step, Session.run, loaded.settings_eq]
    rfl
  | clear => exact ⟨rfl, loaded⟩

theorem HasLoaded.after (loaded : HasLoaded settings k s) (calls : List Call) :
    HasLoaded settings (k + loads calls) (s.after calls) := by
  induction calls generalizing k s with
  | nil => exact loaded
  | cons call calls ih =>
    rw [loads_cons, ← Nat.add_assoc]
    exact ih (loaded.step call).2

theorem length_answers (s : Session) (calls : List Call) : (s.answers calls).length = calls.length := by
  induction calls generalizing s with
  | nil => rfl
  | cons call calls ih => rw [answers, List.length_cons, List.length_cons, ih]

theorem HasLoaded.getElem?_answers (loaded : HasLoaded settings k s) {calls : List Call} {i : Nat} {call : Call}
    (found : calls[i]? = some call) :
    (s.answers calls)[i]? = some (call.answer settings (k + loads (calls.take i))) := by
  induction calls generalizing k s i with
  | nil => contradiction
  | cons first calls ih =>
    obtain ⟨here, later⟩ := loaded.step first
    cases i with
    | zero =>
      obtain rfl := Option.some.inj found
      exact congrArg some here
    | succ i =>
      rw [List.take_succ_cons, loads_cons, ← Nat.add_assoc]
      exact ih later found

theorem HasLoaded.positions_eq (loaded : HasLoaded settings k s) (calls : List Call) :
    s.positions calls = (List.range' k (loads calls)).map (· % settings.examples.length) := by
  induction calls generalizing k s with
  | nil => rfl
  | cons call calls ih =>
    have later := ih (loaded.step call).2
    cases call with
    | load =>
      rw [loads_cons, Nat.add_comm]
      exact congrArg₂ List.cons loaded.next_eq later
    | run source => exact later
    | clear => exact later

theorem take_drop_range' {j n total : Nat} (within : j + n ≤ total) :
    ((List.range' 0 total).drop j).take n = List.range' j n := by
  obtain ⟨rest, rfl⟩ := Nat.exists_eq_add_of_le within
  have left : j + n + rest - j = n + rest := by omega
  rw [List.drop_range', Nat.zero_add, Nat.mul_one, left, ← List.range'_append_1]
  exact List.take_left' List.length_range'

/-- As many positions in a row as there are examples are all of them, from some position on and round to it. -/
theorem map_mod_range' (j n : Nat) : (List.range' j n).map (· % n) = (List.range n).rotate j := by
  apply List.ext_getElem
  · simp
  · intro i inMap inRotated
    simp [List.getElem_rotate, Nat.add_comm]

/-- What a session comes to that starts with the given settings. -/
structure Rotates (settings : Settings) (calls : List Call) : Prop where
  /-- There is an example to go back to. -/
  some_example : 0 < settings.examples.length
  settings_eq : ((start settings).after calls).settings = settings
  next_eq : ((start settings).after calls).next.val = loads calls % settings.examples.length
  /-- Each call returns something. -/
  length_eq : ((start settings).answers calls).length = calls.length
  /-- What it is follows from the settings and the number of loads before it. -/
  answer_eq : ∀ (i : Nat) (call : Call), calls[i]? = some call →
    ((start settings).answers calls)[i]? = some (call.answer settings (loads (calls.take i)))
  positions_eq : (start settings).positions calls = (List.range (loads calls)).map (· % settings.examples.length)
  /-- As many loads in a row as there are examples take each position once. -/
  round : ∀ j, j + settings.examples.length ≤ loads calls →
    ((((start settings).positions calls).drop j).take settings.examples.length).Perm
      (List.range settings.examples.length)

theorem rotates (settings : Settings) (calls : List Call) : Rotates settings calls := by
  have fresh := hasLoaded_start settings
  have final := fresh.after calls
  have positions := fresh.positions_eq calls
  rw [Nat.zero_add] at final
  exact {
    some_example := length_examples_pos settings
    settings_eq := final.settings_eq
    next_eq := final.next_eq
    length_eq := length_answers _ calls
    answer_eq := by
      intro i call found
      have answer := fresh.getElem?_answers found
      rwa [Nat.zero_add] at answer
    positions_eq := by rw [positions, List.range_eq_range']
    round := by
      intro j within
      rw [positions, ← List.map_drop, ← List.map_take, take_drop_range' within, map_mod_range']
      exact List.rotate_perm _ j }

end Session

end Playground
