import Mathlib.Data.Option.Basic
import Mathlib.Data.List.Basic

/-!
Counting loops whose body may have no result, and what an invariant says of them.
-/

namespace Loops

variable {State : Type}

/-- The body at `first`, `first + 1` and so on, `count` times. -/
def times (body : Nat → State → Option State) : Nat → Nat → State → Option State
  | _, 0, state => some state
  | first, count + 1, state => (body first state).bind (times body (first + 1) count)

/-- Rows one after the other, and each of them from the first column to the last. -/
def each (rows columns : Nat) (body : Nat → Nat → State → Option State) :
    State → Option State :=
  times (fun y => times (fun x => body x y) 0 columns) 0 rows

def find {Place : Type} (test : Place → Option Bool) : List Place → Option (Option Place)
  | [] => some none
  | place :: rest =>
      (test place).bind fun found => if found then some (some place) else find test rest

theorem times_of_invariant {body : Nat → State → Option State}
    {invariant : Nat → State → Prop} {first count : Nat} {state : State}
    (initial : invariant first state)
    (kept : ∀ index current, first ≤ index → index < first + count → invariant index current →
      ∃ next, body index current = some next ∧ invariant (index + 1) next) :
    ∃ last, times body first count state = some last ∧ invariant (first + count) last := by
  induction count generalizing first state with
  | zero => exact ⟨state, rfl, initial⟩
  | succ count ih =>
      obtain ⟨next, result, holds⟩ := kept first state (Nat.le_refl _) (by omega) initial
      obtain ⟨last, reached, final⟩ :=
        ih holds fun index current lower upper => kept index current (by omega) (by omega)
      refine ⟨last, ?_, ?_⟩
      · rw [times, result, Option.bind_some, reached]
      · rwa [Nat.add_assoc, Nat.add_comm 1 count] at final

/-- What holds at the end of a row holds at the front of the next one. -/
theorem each_of_invariant {rows columns : Nat} {body : Nat → Nat → State → Option State}
    {invariant : Nat → Nat → State → Prop} {state : State} (initial : invariant 0 0 state)
    (kept : ∀ x y current, x < columns → y < rows → invariant x y current →
      ∃ next, body x y current = some next ∧ invariant (x + 1) y next)
    (wraps : ∀ y current, invariant columns y current → invariant 0 (y + 1) current) :
    ∃ last, each rows columns body state = some last ∧ invariant 0 rows last := by
  have row (y : Nat) (current : State) (inRows : y < rows) (holds : invariant 0 y current) :
      ∃ next, times (fun x => body x y) 0 columns current = some next ∧
        invariant 0 (y + 1) next := by
    obtain ⟨next, result, after⟩ := @times_of_invariant State (fun x => body x y)
      (fun x => invariant x y) 0 columns current holds
      fun x current _ inColumns => kept x y current (by omega) inRows
    rw [Nat.zero_add] at after
    exact ⟨next, result, wraps y next after⟩
  have whole := @times_of_invariant State (fun y => times (fun x => body x y) 0 columns)
    (invariant 0) 0 rows state initial
    fun y current _ inRows => row y current (by omega)
  rwa [Nat.zero_add] at whole

theorem each_zero (rows : Nat) (body : Nat → Nat → State → Option State) (state : State) :
    each rows 0 body state = some state := by
  obtain ⟨last, reached, rfl⟩ := @times_of_invariant State
    (fun y => times (fun x => body x y) 0 0) (fun _ current => current = state) 0 rows state rfl
    fun _ current _ _ same => ⟨current, rfl, same⟩
  exact reached

/-! Loops as folds over the places they visit. -/

theorem times_eq_foldlM (body : Nat → State → Option State) (first count : Nat) (state : State) :
    times body first count state =
      (List.range' first count).foldlM (fun state index => body index state) state := by
  induction count generalizing first state with
  | zero => rfl
  | succ count ih =>
      rw [times, List.range'_succ, List.foldlM_cons]
      exact congrArg (Option.bind (body first state)) (funext fun next => ih (first + 1) next)

theorem each_eq_foldlM (rows columns : Nat) (body : Nat → Nat → State → Option State)
    (state : State) :
    each rows columns body state =
      ((List.range' 0 rows).flatMap fun y => (List.range' 0 columns).map fun x => (x, y)).foldlM
        (fun state place => body place.1 place.2 state) state := by
  rw [each, times_eq_foldlM]
  generalize List.range' 0 rows = lines
  induction lines generalizing state with
  | nil => rfl
  | cons y rest ih =>
      rw [List.foldlM_cons, List.flatMap_cons, List.foldlM_append, times_eq_foldlM,
        List.foldlM_map]
      exact congrArg (Option.bind _) (funext fun next => ih next)

theorem find_eq {Place : Type} {test : Place → Option Bool} {holds : Place → Bool}
    {places : List Place} (tested : ∀ place ∈ places, test place = some (holds place)) :
    find test places = some (places.find? holds) := by
  induction places with
  | nil => rfl
  | cons place rest ih =>
      rw [find, tested place List.mem_cons_self, Option.bind_some]
      cases found : holds place with
      | true => rw [List.find?_cons_of_pos found, if_pos rfl]
      | false =>
          rw [List.find?_cons_of_neg (by simp [found]), if_neg Bool.false_ne_true]
          exact ih fun other member => tested other (List.mem_cons_of_mem _ member)

end Loops
