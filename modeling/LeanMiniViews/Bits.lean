import Mathlib.Algebra.Group.Nat.Defs
import Mathlib.Data.Nat.Bits

/-!
Bit operations on numbers, with a mask or a field at a known place, as quotients, remainders and
sums.
-/

namespace Bits

theorem and_shiftLeft (value mask count : Nat) :
    value &&& mask <<< count = (value >>> count &&& mask) <<< count := by
  apply Nat.eq_of_testBit_eq
  intro bit
  simp only [Nat.testBit_and, Nat.testBit_shiftLeft, Nat.testBit_shiftRight]
  by_cases low : count ≤ bit
  · simp [low]
  · simp [low]

theorem and_field (value width count : Nat) :
    value &&& (2 ^ width - 1) <<< count = value / 2 ^ count % 2 ^ width * 2 ^ count := by
  rw [and_shiftLeft, Nat.and_two_pow_sub_one_eq_mod, Nat.shiftRight_eq_div_pow, Nat.shiftLeft_eq]

theorem or_field {low count : Nat} (small : low < 2 ^ count) (high : Nat) :
    low ||| high <<< count = low + high * 2 ^ count := by
  rw [Nat.or_comm, ← Nat.shiftLeft_add_eq_or_of_lt small, Nat.shiftLeft_eq, Nat.add_comm]

theorem and_low {low width : Nat} (small : low < 2 ^ width) (high : Nat) :
    low + high * 2 ^ width &&& (2 ^ width - 1) = low := by
  rw [Nat.and_two_pow_sub_one_eq_mod, Nat.add_mul_mod_self_right, Nat.mod_eq_of_lt small]

end Bits
