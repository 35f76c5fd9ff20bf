import Mathlib.Data.Option.Basic
import Mathlib.Data.List.Basic

/-!
Finite runs of a partial step function. A run stops at the first event the
machine cannot take, so every statement about later states is about the states
that are really reached.
-/

namespace Runs

variable {State Event : Type}

/-- `holds` is true of every state of the run together with the event taken there. -/
def Along (step : State → Event → Option State) (holds : State → Event → Prop) :
    State → List Event → Prop
  | _, [] => True
  | state, event :: rest =>
      holds state event ∧ ∀ next ∈ step state event, Along step holds next rest

/-- `holds` is true of the state the event leads to, if it leads to one. -/
def After (step : State → Event → Option State) (holds : State → Event → State → Prop)
    (state : State) (event : Event) : Prop :=
  ∀ next ∈ step state event, holds state event next

def final (step : State → Event → Option State) : State → List Event → Option State
  | state, [] => some state
  | state, event :: rest => (step state event).bind fun next => final step next rest

def count (step : State → Event → Option State) (marked : State → Event → Bool) :
    State → List Event → Nat
  | _, [] => 0
  | state, event :: rest =>
      (marked state event).toNat +
        (step state event).elim 0 fun next => count step marked next rest

instance decidableAlong (step : State → Event → Option State) (holds : State → Event → Prop)
    [∀ state event, Decidable (holds state event)] :
    ∀ state events, Decidable (Along step holds state events)
  | _, [] => isTrue trivial
  | state, event :: rest =>
      have := fun next => decidableAlong step holds next rest
      inferInstanceAs (Decidable (holds state event ∧
        ∀ next ∈ step state event, Along step holds next rest))

instance decidableAfter (step : State → Event → Option State)
    (holds : State → Event → State → Prop)
    [∀ state event next, Decidable (holds state event next)] (state : State) (event : Event) :
    Decidable (After step holds state event) :=
  inferInstanceAs (Decidable (∀ next ∈ step state event, holds state event next))

variable {step : State → Event → Option State}

@[simp] theorem along_nil (holds : State → Event → Prop) (state : State) :
    Along step holds state [] := trivial

theorem along_cons (holds : State → Event → Prop) (state : State) (event : Event)
    (rest : List Event) :
    Along step holds state (event :: rest) ↔
      holds state event ∧ ∀ next ∈ step state event, Along step holds next rest :=
  Iff.rfl

@[simp] theorem final_nil (state : State) : final step state [] = some state := rfl

theorem final_cons (state : State) (event : Event) (rest : List Event) :
    final step state (event :: rest) = (step state event).bind fun next => final step next rest :=
  rfl

theorem after_iff {holds : State → Event → State → Prop} {allowed : Prop} {state : State}
    {event : Event} (blocked : step state event = none → allowed)
    (taken : ∀ next ∈ step state event, holds state event next ↔ allowed) :
    After step holds state event ↔ allowed := by
  constructor
  · intro after
    cases stepped : step state event with
    | none => exact blocked stepped
    | some next => exact (taken next stepped).mp (after next stepped)
  · intro allows next stepped
    exact (taken next stepped).mpr allows

theorem along_of_forall {holds : State → Event → Prop}
    {state : State} {events : List Event}
    (all : ∀ state, ∀ event ∈ events, holds state event) : Along step holds state events := by
  induction events generalizing state with
  | nil => trivial
  | cons event rest ih =>
      refine ⟨all state event List.mem_cons_self, ?_⟩
      intro next _
      exact ih fun state event member => all state event (List.mem_cons_of_mem _ member)

/-- A run that comes to its end takes each of its steps. -/
theorem along_of_final {state last : State} {events : List Event}
    (reached : final step state events = some last) :
    Along step (fun state event => ∃ next, step state event = some next) state events := by
  induction events generalizing state with
  | nil => trivial
  | cons event rest ih =>
      rw [final_cons, Option.bind_eq_some_iff] at reached
      obtain ⟨next, stepped, reached⟩ := reached
      refine ⟨⟨next, stepped⟩, ?_⟩
      intro other same
      rw [Option.mem_def, stepped, Option.some.injEq] at same
      exact same ▸ ih reached

theorem along_congr {first second : State → Event → Prop}
    (same : ∀ state event, first state event ↔ second state event) (state : State)
    (events : List Event) : Along step first state events ↔ Along step second state events := by
  induction events generalizing state with
  | nil => simp
  | cons event rest ih =>
      rw [along_cons, along_cons, same state event]
      exact and_congr_right fun _ => forall_congr' fun next => forall_congr' fun _ => ih next

theorem along_and {first second : State → Event → Prop} {state : State} {events : List Event}
    (left : Along step first state events) (right : Along step second state events) :
    Along step (fun state event => first state event ∧ second state event) state events := by
  induction events generalizing state with
  | nil => trivial
  | cons event rest ih =>
      refine ⟨⟨left.1, right.1⟩, ?_⟩
      intro next stepped
      exact ih (left.2 next stepped) (right.2 next stepped)

theorem along_mono {first second : State → Event → Prop}
    (weaker : ∀ state event, first state event → second state event) {state : State}
    {events : List Event} (run : Along step first state events) :
    Along step second state events := by
  induction events generalizing state with
  | nil => trivial
  | cons event rest ih =>
      refine ⟨weaker state event run.1, ?_⟩
      exact fun next stepped => ih (run.2 next stepped)

theorem along_and_iff {first second : State → Event → Prop} {state : State}
    {events : List Event} :
    Along step (fun state event => first state event ∧ second state event) state events ↔
      Along step first state events ∧ Along step second state events := by
  constructor
  · intro run
    exact ⟨along_mono (fun _ _ => And.left) run, along_mono (fun _ _ => And.right) run⟩
  · exact fun ⟨left, right⟩ => along_and left right

theorem along_append {holds : State → Event → Prop} {state : State} {first second : List Event} :
    Along step holds state (first ++ second) ↔
      Along step holds state first ∧
        ∀ last ∈ final step state first, Along step holds last second := by
  induction first generalizing state with
  | nil => simp
  | cons event rest ih =>
      rw [List.cons_append, along_cons, along_cons, final_cons, and_assoc]
      refine and_congr_right fun _ => ?_
      cases step state event with
      | none => simp
      | some next => simpa using ih

/-- An invariant that the allowed steps keep, and that makes `holds` true of every
allowed step, makes `holds` true along every allowed run. -/
theorem along_of_invariant {allowed holds : State → Event → Prop} {invariant : State → Prop}
    (kept : ∀ state event, invariant state → allowed state event →
      ∀ next ∈ step state event, invariant next)
    (gives : ∀ state event, invariant state → allowed state event → holds state event)
    {state : State} {events : List Event} (initial : invariant state)
    (run : Along step allowed state events) : Along step holds state events := by
  induction events generalizing state with
  | nil => trivial
  | cons event rest ih =>
      obtain ⟨here, later⟩ := run
      refine ⟨gives state event initial here, ?_⟩
      intro next stepped
      exact ih (kept state event initial here next stepped) (later next stepped)

/-- The exact form of `along_of_invariant`. Where `allowed` says of each step, under the
invariant, whether `holds` is true of it, it also says so of whole runs. `given` collects
what every step of the run is assumed to satisfy. -/
theorem along_iff_of_invariant {given allowed holds : State → Event → Prop}
    {invariant : State → Prop}
    (exact_step : ∀ state event, invariant state → given state event →
      (holds state event ↔ allowed state event))
    (kept : ∀ state event, invariant state → given state event → allowed state event →
      ∀ next ∈ step state event, invariant next)
    {state : State} {events : List Event} (initial : invariant state)
    (assumed : Along step given state events) :
    Along step holds state events ↔ Along step allowed state events := by
  induction events generalizing state with
  | nil => simp
  | cons event rest ih =>
      obtain ⟨here, later⟩ := assumed
      rw [along_cons, along_cons, exact_step state event initial here]
      refine and_congr_right fun allowedHere => ?_
      refine forall_congr' fun next => forall_congr' fun stepped => ?_
      exact ih (kept state event initial here allowedHere next stepped) (later next stepped)

/-- `along_iff_of_invariant` where nothing is assumed of the steps. -/
theorem along_iff_of_exact {allowed holds : State → Event → Prop} {invariant : State → Prop}
    (exact_step : ∀ state event, invariant state → (holds state event ↔ allowed state event))
    (kept : ∀ state event, invariant state → allowed state event →
      ∀ next ∈ step state event, invariant next)
    {state : State} {events : List Event} (initial : invariant state) :
    Along step holds state events ↔ Along step allowed state events := by
  have anything : Along step (fun _ _ => True) state events :=
    along_of_forall fun _ _ _ => trivial
  apply along_iff_of_invariant _ _ initial anything
  · intro state event holds _
    exact exact_step state event holds
  · intro state event holds _
    exact kept state event holds

section Count

variable {marked : State → Event → Bool} {holds : State → Event → Prop}
  {fresh spent : State → Prop}

/-- Where marked steps break the property and the others keep it, no step may be marked. -/
theorem along_iff_count_eq_zero
    (kept : ∀ state event, spent state → marked state event = false →
      holds state event ∧ ∀ next ∈ step state event, spent next)
    (broken : ∀ state event, spent state → marked state event = true → ¬ holds state event)
    {state : State} {events : List Event} (initial : spent state) :
    Along step holds state events ↔ count step marked state events = 0 := by
  induction events generalizing state with
  | nil => simp [count]
  | cons event rest ih =>
      cases mark : marked state event with
      | true =>
          have here := broken state event initial mark
          simp only [along_cons, count, mark, Bool.toNat_true]
          constructor
          · exact fun run => absurd run.1 here
          · omega
      | false =>
          obtain ⟨here, later⟩ := kept state event initial mark
          simp only [along_cons, count, mark, Bool.toNat_false, Nat.zero_add, here, true_and]
          cases stepped : step state event with
          | none => simp
          | some next => simpa using ih (later next stepped)

/-- The first marked step keeps the property and a second one breaks it. -/
theorem along_iff_count_le_one
    (first : ∀ state event, fresh state → holds state event)
    (unmarked : ∀ state event, fresh state → marked state event = false →
      ∀ next ∈ step state event, fresh next)
    (once : ∀ state event, fresh state → marked state event = true →
      ∀ next ∈ step state event, spent next)
    (kept : ∀ state event, spent state → marked state event = false →
      holds state event ∧ ∀ next ∈ step state event, spent next)
    (broken : ∀ state event, spent state → marked state event = true → ¬ holds state event)
    {state : State} {events : List Event} (initial : fresh state) :
    Along step holds state events ↔ count step marked state events ≤ 1 := by
  induction events generalizing state with
  | nil => simp [count]
  | cons event rest ih =>
      have here := first state event initial
      cases mark : marked state event with
      | true =>
          simp only [along_cons, count, mark, Bool.toNat_true, here, true_and]
          cases stepped : step state event with
          | none => simp
          | some next =>
              have second : Along step holds next rest ↔ count step marked next rest = 0 :=
                along_iff_count_eq_zero kept broken (once state event initial mark next stepped)
              simp only [Option.mem_def, Option.some.injEq, forall_eq', Option.elim_some]
              rw [second]
              omega
      | false =>
          simp only [along_cons, count, mark, Bool.toNat_false, Nat.zero_add, here, true_and]
          cases stepped : step state event with
          | none => simp
          | some next => simpa using ih (unmarked state event initial mark next stepped)

end Count

theorem final_of_invariant {allowed : State → Event → Prop} {invariant : State → Prop}
    (kept : ∀ state event, invariant state → allowed state event →
      ∀ next ∈ step state event, invariant next)
    {state last : State} {events : List Event} (initial : invariant state)
    (run : Along step allowed state events) (reached : final step state events = some last) :
    invariant last := by
  induction events generalizing state with
  | nil =>
      simp only [final_nil, Option.some.injEq] at reached
      exact reached ▸ initial
  | cons event rest ih =>
      obtain ⟨here, later⟩ := run
      rw [final_cons, Option.bind_eq_some_iff] at reached
      obtain ⟨next, stepped, reached⟩ := reached
      exact ih (kept state event initial here next stepped) (later next stepped) reached

theorem final_of_kept {invariant : State → Prop}
    (kept : ∀ state event, invariant state → ∀ next ∈ step state event, invariant next)
    {state last : State} {events : List Event} (initial : invariant state)
    (reached : final step state events = some last) : invariant last := by
  have anything : Along step (fun _ _ => True) state events :=
    along_of_forall fun _ _ _ => trivial
  exact final_of_invariant (fun state event holds _ => kept state event holds) initial anything
    reached

/-- A machine that never stops short of what another one, which always goes on, does. -/
theorem final_simulates_of_allowed {Abstract : Type} {abstractStep : Abstract → Event → Abstract}
    {allowed : Event → Prop} {relates : State → Abstract → Prop}
    (kept : ∀ state abstract event, allowed event → relates state abstract →
      ∃ next, step state event = some next ∧ relates next (abstractStep abstract event))
    {state : State} {abstract : Abstract} (initial : relates state abstract)
    {events : List Event} (given : ∀ event ∈ events, allowed event) :
    ∃ last, final step state events = some last ∧
      relates last (events.foldl abstractStep abstract) := by
  induction events generalizing state abstract with
  | nil => exact ⟨state, rfl, initial⟩
  | cons event rest ih =>
      obtain ⟨next, stepped, related⟩ :=
        kept state abstract event (given event List.mem_cons_self) initial
      obtain ⟨last, reached, final⟩ :=
        ih related fun other member => given other (List.mem_cons_of_mem event member)
      refine ⟨last, ?_, final⟩
      rw [final_cons, stepped, Option.bind_some, reached]

theorem final_simulates {Abstract : Type} {abstractStep : Abstract → Event → Abstract}
    {relates : State → Abstract → Prop}
    (kept : ∀ state abstract event, relates state abstract →
      ∃ next, step state event = some next ∧ relates next (abstractStep abstract event))
    {state : State} {abstract : Abstract} (initial : relates state abstract)
    (events : List Event) :
    ∃ last, final step state events = some last ∧
      relates last (events.foldl abstractStep abstract) := by
  have always (state : State) (abstract : Abstract) (event : Event) (_ : True) :=
    kept state abstract event
  exact final_simulates_of_allowed always initial fun _ _ => trivial

/-- What another machine that follows the same events knows about the state reached. -/
theorem final_related {Abstract : Type} {abstractStep : Abstract → Event → Abstract}
    {allowed : Event → Prop} {relates : Abstract → State → Prop}
    (kept : ∀ abstract state event, allowed event → relates abstract state →
      ∀ next ∈ step state event, relates (abstractStep abstract event) next)
    {abstract : Abstract} {state last : State} {events : List Event}
    (initial : relates abstract state) (given : ∀ event ∈ events, allowed event)
    (reached : final step state events = some last) :
    relates (events.foldl abstractStep abstract) last := by
  induction events generalizing state abstract with
  | nil =>
      simp only [final_nil, Option.some.injEq] at reached
      exact reached ▸ initial
  | cons event rest ih =>
      rw [List.forall_mem_cons] at given
      rw [final_cons, Option.bind_eq_some_iff] at reached
      obtain ⟨next, stepped, reached⟩ := reached
      exact ih (kept abstract state event given.1 initial next stepped) given.2 reached

theorem final_append (state : State) (first second : List Event) :
    final step state (first ++ second) =
      (final step state first).bind fun middle => final step middle second := by
  induction first generalizing state with
  | nil => rfl
  | cons event rest ih =>
      rw [List.cons_append, final_cons, final_cons]
      cases step state event with
      | none => rfl
      | some next => exact ih next

end Runs
