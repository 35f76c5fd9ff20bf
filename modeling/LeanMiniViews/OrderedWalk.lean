import LeanMiniViews.Runs

/-!
Places in a strict order, and a machine that goes from each place to the next one.
-/

namespace OrderedWalk

variable {Place : Type} (before : Place → Place → Prop) [DecidableRel before]

/-- The places that come after one that need not be among them. -/
def later (places : List Place) (here : Place) : List Place :=
  places.filter fun place => before here place

variable {before} {places : List Place}

theorem later_next (irrefl : ∀ place, ¬ before place place)
    (trans : ∀ {first second third}, before first second → before second third →
      before first third) (sorted : places.Pairwise before) {here next : Place}
    {rest : List Place} (after : later before places here = next :: rest) :
    later before places next = rest := by
  have member : next ∈ later before places here := after ▸ List.mem_cons_self
  have passed : before here next := by simpa using (List.mem_filter.mp member).2
  have ordered : (next :: rest).Pairwise before := after ▸ sorted.filter _
  have again : later before places next = (next :: rest).filter (before next ·) := by
    rw [← after, later, later, List.filter_filter]
    apply List.filter_congr
    intro place _
    simpa using fun follows => trans passed follows
  rw [again, List.filter_cons_of_neg (by simpa using irrefl next), List.filter_eq_self]
  intro place inRest
  simpa using (List.pairwise_cons.mp ordered).1 place inRest

/-- After each number of steps the machine is at that place of the list, and from its end on at
the last one. -/
theorem final_of_next (irrefl : ∀ place, ¬ before place place)
    (trans : ∀ {first second third}, before first second → before second third →
      before first third) (sorted : places.Pairwise before) {State Event : Type}
    {step : State → Event → Option State} {place : State → Place} {invariant : State → Prop}
    (moves : ∀ state event, invariant state → ∃ next, step state event = some next ∧
      invariant next ∧
      place next = (later before places (place state)).head?.getD (place state))
    (events : List Event) {state : State} (initial : invariant state) :
    ∃ last, Runs.final step state events = some last ∧
      place last =
        ((later before places (place state)).take events.length).getLast?.getD (place state) := by
  induction events generalizing state with
  | nil => exact ⟨state, rfl, rfl⟩
  | cons event rest ih =>
      obtain ⟨next, stepped, holds, moved⟩ := moves state event initial
      obtain ⟨last, reached, final⟩ := ih holds
      refine ⟨last, ?_, ?_⟩
      · rw [Runs.final_cons, stepped, Option.bind_some, reached]
      · cases after : later before places (place state) with
        | nil =>
            rw [after] at moved
            have stays : place next = place state := moved
            rw [final, stays, after]
            simp
        | cons first others =>
            rw [after] at moved
            have advances : place next = first := moved
            rw [final, advances, later_next irrefl trans sorted after, List.length_cons,
              List.take_succ_cons, List.getLast?_cons, Option.getD_some]

end OrderedWalk
