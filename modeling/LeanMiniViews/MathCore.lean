import Mathlib.Tactic.Linarith
import Mathlib.Tactic.Ring

/-!
Integers and rectangles shared by both replication back-ends. `int` and `LONG`
values are `Int`. Where the source stores into an unsigned field or casts back,
the conversion is written out. The ratio arithmetic of a MiniView is exact:
signed overflow there has no meaning in the source either.
-/

namespace LeanMiniViews

abbrev HWND := Nat

structure Rect where
  left : Int
  top : Int
  right : Int
  bottom : Int
deriving DecidableEq, Repr

def Rect.width (rect : Rect) : Int := rect.right - rect.left

def Rect.height (rect : Rect) : Int := rect.bottom - rect.top

def Rect.empty : Rect := ⟨0, 0, 0, 0⟩

structure Size where
  cx : Int
  cy : Int
deriving DecidableEq, Repr

def toUInt (value : Int) : Int := value % 4294967296

def toLong (value : Int) : Int :=
  if value % 4294967296 < 2147483648 then value % 4294967296
  else value % 4294967296 - 4294967296

def mulLong (left right : Int) : Int := toLong (left * right)

theorem toUInt_of_fits {value : Int} (nonneg : 0 ≤ value) (fits : value < 4294967296) :
    toUInt value = value := by
  unfold toUInt
  omega

theorem toLong_of_fits {value : Int} (nonneg : 0 ≤ value) (fits : value < 2147483648) :
    toLong value = value := by
  unfold toLong
  split <;> omega

def roundedQuotient (dividend divisor : Int) : Int :=
  if divisor > 0 then
    if dividend > 0 then (dividend + divisor.tdiv 2).tdiv divisor
    else if dividend < 0 then -((-dividend + divisor.tdiv 2).tdiv divisor)
    else 0
  else if divisor < 0 then
    if dividend > 0 then -((dividend + (-divisor).tdiv 2).tdiv (-divisor))
    else if dividend < 0 then (-dividend + (-divisor).tdiv 2).tdiv (-divisor)
    else 0
  else 0

theorem roundedQuotient_of_nonneg {dividend divisor : Int} (nonneg : 0 ≤ dividend)
    (positive : 0 < divisor) :
    roundedQuotient dividend divisor = (dividend + divisor / 2) / divisor := by
  unfold roundedQuotient
  rw [if_pos positive, Int.tdiv_eq_ediv_of_nonneg positive.le]
  by_cases zero : dividend = 0
  · subst zero
    rw [if_neg (by omega), if_neg (by omega), Int.zero_add]
    exact (Int.ediv_eq_zero_of_lt (by omega) (by omega)).symm
  · rw [if_pos (by omega), Int.tdiv_eq_ediv_of_nonneg (by omega)]

theorem roundedQuotient_nonneg {dividend divisor : Int} (nonneg : 0 ≤ dividend)
    (positive : 0 < divisor) : 0 ≤ roundedQuotient dividend divisor := by
  rw [roundedQuotient_of_nonneg nonneg positive]
  exact Int.ediv_nonneg (by omega) positive.le

theorem roundedQuotient_mono {smaller larger divisor : Int} (nonneg : 0 ≤ smaller)
    (ordered : smaller ≤ larger) (positive : 0 < divisor) :
    roundedQuotient smaller divisor ≤ roundedQuotient larger divisor := by
  rw [roundedQuotient_of_nonneg nonneg positive,
    roundedQuotient_of_nonneg (by omega) positive]
  exact Int.ediv_le_ediv positive (by omega)

theorem roundedQuotient_mul {factor divisor : Int} (nonneg : 0 ≤ factor)
    (positive : 0 < divisor) : roundedQuotient (factor * divisor) divisor = factor := by
  rw [roundedQuotient_of_nonneg (Int.mul_nonneg nonneg positive.le) positive,
    Int.mul_comm, Int.mul_add_ediv_left _ _ (by omega),
    Int.ediv_eq_zero_of_lt (by omega) (by omega), Int.add_zero]

theorem roundedQuotient_le {dividend bound divisor : Int} (nonneg : 0 ≤ dividend)
    (bounded : dividend ≤ bound * divisor) (bound_nonneg : 0 ≤ bound) (positive : 0 < divisor) :
    roundedQuotient dividend divisor ≤ bound := by
  have ordered := roundedQuotient_mono nonneg bounded positive
  rwa [roundedQuotient_mul bound_nonneg positive] at ordered

end LeanMiniViews
