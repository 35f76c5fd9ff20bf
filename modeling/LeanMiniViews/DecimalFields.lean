import LeanMiniViews.NumberFields

/-!
`SetEditNum` and `GetEditNum` for every integral type of the language, `bool` and the unsigned
types of 64 bits among them.
-/

namespace LeanMiniViews

inductive NumType where
  | bool
  | signed (bits : Nat)
  | unsigned (bits : Nat)

namespace NumType

def Holds : NumType → Int → Prop
  | bool, value => value = 0 ∨ value = 1
  | signed bits, value => 0 < bits ∧ -(2 ^ (bits - 1)) ≤ value ∧ value < 2 ^ (bits - 1)
  | unsigned bits, value => 0 ≤ value ∧ value < 2 ^ bits

/-- The conversion from a `long long`. -/
def convert : NumType → Int → Int
  | bool, value => if value = 0 then 0 else 1
  | signed bits, value => value.bmod (2 ^ bits)
  | unsigned bits, value => value % 2 ^ bits

theorem convert_of_holds {numType : NumType} {value : Int} (holds : numType.Holds value) :
    numType.convert value = value := by
  cases numType with
  | bool =>
      rcases holds with rfl | rfl
      · rfl
      · rfl
  | signed bits =>
      obtain ⟨positive, lower, upper⟩ := holds
      have double : ((2 ^ bits : Nat) : Int) = 2 * 2 ^ (bits - 1) := by
        push_cast
        rw [← pow_succ', Nat.sub_add_cancel positive]
      unfold convert
      apply Int.bmod_eq_of_le_mul_two <;> rw [double] <;> omega
  | unsigned bits => exact Int.emod_eq_of_lt holds.1 holds.2

end NumType

namespace EditControl

open Strtol (decimal detectedBase strtoll)

/-- `GetEditNum` with its type as a parameter of any kind. -/
def getEditNumAs (control : EditControl) (numType : NumType) (dest : Int) : Bool × Int :=
  match control.getWinText with
  | some text =>
      if text.length > 0 then
        let temp := strtoll 0 text
        if temp.value ≠ 0 then (true, numType.convert temp.value)
        else if !temp.rangeError && temp.rest.isEmpty then (true, 0)
        else (false, dest)
      else (false, dest)
  | none => (false, dest)

theorem setEditNum_eq_showing {control : EditControl} (readable : control.readable = true)
    (num : Int) : control.setEditNum num = showing (decimal num) := by
  simp [setEditNum, setText, showing, readable]

theorem decimal_ne_nil (num : Int) : decimal num ≠ [] := by
  unfold decimal
  split
  · simp
  · exact Nat.toDigits_ne_nil

theorem strtoll_decimal {num : Int} (lower : -9223372036854775808 ≤ num)
    (upper : num ≤ 9223372036854775807) : strtoll 0 (decimal num) = ⟨num, [], false⟩ :=
  Strtol.strtoll_of_fits (Strtol.scan_of_literal (Strtol.literal_decimal num)) lower upper

theorem getEditNumAs_decimal {numType : NumType} {num : Int} (holds : numType.Holds num)
    (lower : -9223372036854775808 ≤ num) (upper : num ≤ 9223372036854775807) (dest : Int) :
    (showing (decimal num)).getEditNumAs numType dest = (true, num) := by
  simp only [getEditNumAs, getWinText_showing, strtoll_decimal lower upper]
  rw [if_pos (List.length_pos_iff.mpr (decimal_ne_nil num))]
  split
  · rw [NumType.convert_of_holds holds]
  · rename_i zero
    obtain rfl := not_not.mp zero
    rfl

structure DecimalRoundTrip (control : EditControl) (numType : NumType) (num : Int) : Prop where
  readBack : ∀ dest, (control.setEditNum num).getEditNumAs numType dest = (true, num)
  asDecimal : strtoll 0 (control.setEditNum num).text = strtoll 10 (control.setEditNum num).text
  detected : num ≠ 0 → detectedBase (control.setEditNum num).text = 10

theorem setEditNum_roundTrip {control : EditControl} (readable : control.readable = true)
    {numType : NumType} {num : Int} (holds : numType.Holds num)
    (lower : -9223372036854775808 ≤ num) (upper : num ≤ 9223372036854775807) :
    DecimalRoundTrip control numType num := by
  have shown := setEditNum_eq_showing readable num
  constructor
  · intro dest
    rw [shown]
    exact getEditNumAs_decimal holds lower upper dest
  · rw [shown]
    exact Strtol.strtoll_decimal_detected num
  · intro nonzero
    rw [shown]
    exact Strtol.detectedBase_decimal nonzero

theorem setEditNum_roundTrip_lowest :
    DecimalRoundTrip (showing []) (.signed 64) (-9223372036854775808) :=
  setEditNum_roundTrip rfl (by simp [NumType.Holds]) (by decide) (by decide)

end EditControl

end LeanMiniViews
