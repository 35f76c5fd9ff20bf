import Mathlib.Data.Option.Basic

/-!
The search for the place where a predicate on the numbers becomes true, between a number that is
known to be below it and one that is not.
-/

namespace Bisection

/-- There is no result where the fuel runs out. -/
def narrow (above : Nat → Bool) : Nat → Nat → Nat → Option (Nat × Nat)
  | 0, _, _ => none
  | fuel + 1, floor, ceil =>
      if ceil - 1 > floor then
        let middle := (ceil - floor) / 2 + floor
        if above middle then narrow above fuel floor middle else narrow above fuel middle ceil
      else some (floor, ceil)

variable {above : Nat → Bool}

theorem narrow_of_apart (fuel : Nat) {floor ceil : Nat} (apart : ceil - 1 > floor) :
    narrow above (fuel + 1) floor ceil =
      if above ((ceil - floor) / 2 + floor) then
        narrow above fuel floor ((ceil - floor) / 2 + floor)
      else narrow above fuel ((ceil - floor) / 2 + floor) ceil := by
  rw [narrow, if_pos apart]

/-- Enough fuel leads to two neighbours: the predicate does not hold of the lower one, and it
holds of the upper one unless that is where the search began. -/
theorem narrow_adjacent {gap floor ceil : Nat} (ordered : floor < ceil)
    (within : ceil - floor ≤ gap) (below : above floor = false) :
    ∃ last, (∀ fuel, gap ≤ fuel → narrow above fuel floor ceil = some (last, last + 1)) ∧
      last < ceil ∧ above last = false ∧ (last + 1 = ceil ∨ above (last + 1) = true) := by
  induction gap generalizing floor ceil with
  | zero => omega
  | succ gap ih =>
      by_cases apart : ceil - 1 > floor
      · generalize middleIs : (ceil - floor) / 2 + floor = middle
        have inside : floor < middle ∧ middle < ceil := by omega
        cases here : above middle with
        | true =>
            obtain ⟨last, found, lastBelow, isBelow, next⟩ := ih inside.1 (by omega) below
            refine ⟨last, ?_, Nat.lt_trans lastBelow inside.2, isBelow, Or.inr ?_⟩
            · intro fuel enough
              obtain ⟨fuel, rfl⟩ := Nat.exists_eq_add_of_le' (Nat.zero_lt_of_lt enough)
              rw [narrow_of_apart fuel apart, middleIs, here, if_pos rfl]
              exact found fuel (by omega)
            · rcases next with isMiddle | isAbove
              · rw [isMiddle, here]
              · exact isAbove
        | false =>
            obtain ⟨last, found, rest⟩ := ih inside.2 (by omega) here
            refine ⟨last, ?_, rest⟩
            intro fuel enough
            obtain ⟨fuel, rfl⟩ := Nat.exists_eq_add_of_le' (Nat.zero_lt_of_lt enough)
            rw [narrow_of_apart fuel apart, middleIs, here, if_neg Bool.false_ne_true]
            exact found fuel (by omega)
      · obtain rfl : ceil = floor + 1 := by omega
        refine ⟨floor, ?_, ordered, below, Or.inl rfl⟩
        intro fuel enough
        obtain ⟨fuel, rfl⟩ := Nat.exists_eq_add_of_le' (Nat.zero_lt_of_lt enough)
        rw [narrow, if_neg apart]

end Bisection
