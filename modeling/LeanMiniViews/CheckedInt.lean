import Mathlib.Algebra.Order.Group.Unbundled.Int
import Mathlib.Algebra.Order.Ring.Int

/-!
Arithmetic of an `int` of 32 bits, where a result that the type does not have is none at all.
-/

namespace CheckedInt

def InRange (value : Int) : Prop := -2147483648 ≤ value ∧ value ≤ 2147483647

instance (value : Int) : Decidable (InRange value) := inferInstanceAs (Decidable (_ ∧ _))

def exact (value : Int) : Option Int := if InRange value then some value else none

def add (left right : Int) : Option Int := exact (left + right)

def sub (left right : Int) : Option Int := exact (left - right)

def mul (left right : Int) : Option Int := exact (left * right)

def neg (value : Int) : Option Int := exact (-value)

def abs (value : Int) : Option Int := exact |value|

def div (dividend divisor : Int) : Option Int :=
  if divisor = 0 then none else exact (dividend.tdiv divisor)

theorem exact_of_inRange {value : Int} (inRange : InRange value) : exact value = some value :=
  if_pos inRange

theorem exact_of_not_inRange {value : Int} (outside : ¬ InRange value) : exact value = none :=
  if_neg outside

theorem exact_bind_exact {α : Type} (left right : Int) (following : Int → Int → Option α) :
    ((exact left).bind fun first => (exact right).bind fun second => following first second) =
      if InRange left ∧ InRange right then following left right else none := by
  by_cases first : InRange left
  · by_cases second : InRange right
    · rw [if_pos ⟨first, second⟩, exact_of_inRange first, exact_of_inRange second]
      rfl
    · rw [if_neg fun both => second both.2, exact_of_inRange first, exact_of_not_inRange second]
      rfl
  · rw [if_neg fun both => first both.1, exact_of_not_inRange first]
    rfl

theorem div_of_nonneg {dividend divisor : Int} (nonneg : 0 ≤ dividend)
    (bounded : dividend ≤ 2147483647) (positive : 0 < divisor) :
    div dividend divisor = some (dividend.tdiv divisor) := by
  have lower : 0 ≤ dividend / divisor := Int.ediv_nonneg nonneg positive.le
  have upper : dividend / divisor ≤ dividend := Int.ediv_le_self _ nonneg
  rw [div, if_neg positive.ne', exact_of_inRange]
  rw [Int.tdiv_eq_ediv_of_nonneg nonneg]
  exact ⟨by omega, by omega⟩

end CheckedInt
