import LeanMiniViews.EditControlCore
import Mathlib.Tactic.Linarith
import Mathlib.Tactic.Ring

/-!
`GetEditNum` against the integer literals. A number other than zero is taken whatever follows it
and whatever type it is asked for.
-/

namespace LeanMiniViews

namespace IntegralType

theorem fits_longLong {numType : IntegralType} {value : Int} (fits : numType.Fits value) :
    -9223372036854775808 ≤ value ∧ value ≤ 9223372036854775807 := by
  have narrow := numType.narrow
  unfold Fits at fits
  split at fits
  · rename_i isSigned
    rw [if_pos isSigned] at narrow
    have bound : (2 : Int) ^ (numType.bits - 1) ≤ 2 ^ 63 :=
      pow_le_pow_right₀ (by norm_num) (by omega)
    norm_num at bound
    omega
  · rename_i unsigned
    rw [if_neg unsigned] at narrow
    have bound : (2 : Int) ^ numType.bits ≤ 2 ^ 63 :=
      pow_le_pow_right₀ (by norm_num) (by omega)
    norm_num at bound
    omega

theorem fits_zero (numType : IntegralType) : numType.Fits 0 := by
  unfold Fits
  split
  · simp
  · simp

theorem cast_of_fits {numType : IntegralType} {value : Int} (fits : numType.Fits value) :
    numType.cast value = value := by
  have narrow := numType.narrow
  unfold Fits at fits
  unfold cast
  split at fits
  · rename_i isSigned
    rw [if_pos isSigned] at narrow ⊢
    have double : ((2 ^ numType.bits : Nat) : Int) = 2 * 2 ^ (numType.bits - 1) := by
      push_cast
      rw [← pow_succ', Nat.sub_add_cancel narrow.1]
    apply Int.bmod_eq_of_le_mul_two <;> rw [double] <;> omega
  · rename_i unsigned
    rw [if_neg unsigned]
    exact Int.emod_eq_of_lt fits.1 fits.2

end IntegralType

namespace EditControl

open Strtol (Literal scan strtoll)

variable {numType : IntegralType} {text rest : List Char}

theorem getWinText_showing (text : List Char) : (showing text).getWinText = some text := by
  unfold getWinText showing
  split
  · rename_i empty
    exact congrArg some empty.symm
  · rfl

theorem getEditNumOptional_eq (control : EditControl) (numType : IntegralType) (dest : Int) :
    control.getEditNumOptional numType =
      if (control.getEditNum numType dest).1 then some (control.getEditNum numType dest).2
      else none := by
  simp only [getEditNumOptional, getEditNum]
  split
  · split
    · split
      · rfl
      · split <;> rfl
    · rfl
  · rfl

theorem getEditNum_showing (nonempty : text ≠ []) (dest : Int) :
    (showing text).getEditNum numType dest =
      if (strtoll 0 text).value ≠ 0 then (true, numType.cast (strtoll 0 text).value)
      else if !(strtoll 0 text).rangeError && (strtoll 0 text).rest.isEmpty then (true, 0)
      else (false, dest) := by
  simp only [getEditNum, getWinText_showing]
  rw [if_pos (List.length_pos_iff.mpr nonempty)]

theorem getEditNum_of_none (scanned : scan 0 text = none) (dest : Int) :
    (showing text).getEditNum numType dest = (false, dest) := by
  by_cases nonempty : text = []
  · subst nonempty
    rfl
  · rw [getEditNum_showing nonempty]
    simp [strtoll, scanned, nonempty]

theorem getEditNum_of_zero (scanned : scan 0 text = some (0, rest)) (dest : Int) :
    (showing text).getEditNum numType dest = if rest = [] then (true, 0) else (false, dest) := by
  have nonempty : text ≠ [] := by
    rintro rfl
    cases scanned
  have converted := Strtol.strtoll_of_fits scanned (by decide) (by decide)
  rw [getEditNum_showing nonempty, converted]
  simp

theorem getEditNum_of_ne_zero {value : Int} (scanned : scan 0 text = some (value, rest))
    (nonzero : value ≠ 0) (dest : Int) :
    (showing text).getEditNum numType dest = (true, numType.cast (strtoll 0 text).value) := by
  have nonempty : text ≠ [] := by
    rintro rfl
    cases scanned
  rw [getEditNum_showing nonempty, if_pos (Strtol.strtoll_ne_zero scanned nonzero)]

theorem getEditNum_of_fits {value : Int} (literal : Literal text value)
    (fits : numType.Fits value) (dest : Int) :
    (showing text).getEditNum numType dest = (true, value) := by
  have scanned := Strtol.scan_eq_nil_iff.mpr literal
  by_cases zero : value = 0
  · subst zero
    rw [getEditNum_of_zero scanned, if_pos rfl]
  · have inside := IntegralType.fits_longLong fits
    rw [getEditNum_of_ne_zero scanned zero, Strtol.strtoll_of_fits scanned inside.1 inside.2,
      IntegralType.cast_of_fits fits]

theorem getEditNum_setEditNum {control : EditControl} (readable : control.readable = true)
    {num : Int} (fits : numType.Fits num) (dest : Int) :
    (control.setEditNum num).getEditNum numType dest = (true, num) := by
  have shown : control.setEditNum num = showing (Strtol.decimal num) := by
    simp [setEditNum, setText, showing, readable]
  rw [shown]
  exact getEditNum_of_fits (Strtol.literal_decimal num) fits dest

/-! Every text. -/

/-- The literals with a value of the type are read, and nothing else is. -/
structure ReadsLiterals (numType : IntegralType) (text : List Char) : Prop where
  accepts : ∀ value dest, Literal text value → numType.Fits value →
    (showing text).getEditNum numType dest = (true, value)
  refuses : ∀ dest, (¬ ∃ value, Literal text value ∧ numType.Fits value) →
    (showing text).getEditNum numType dest = (false, dest)
  optional : ∀ dest, (showing text).getEditNumOptional numType =
    if ((showing text).getEditNum numType dest).1 then
      some ((showing text).getEditNum numType dest).2
    else none

theorem readsLiterals_iff_refuses (numType : IntegralType) (text : List Char) :
    ReadsLiterals numType text ↔
      ∀ dest, (¬ ∃ value, Literal text value ∧ numType.Fits value) →
        (showing text).getEditNum numType dest = (false, dest) :=
  ⟨fun reads => reads.refuses, fun refuses =>
    ⟨fun _ dest literal fits => getEditNum_of_fits literal fits dest, refuses,
      getEditNumOptional_eq _ numType⟩⟩

/-- A text is read as it should be exactly if the number at its front, should there be one other
than zero, is the whole text and a number of the type. -/
theorem getEditNum_literals_iff (numType : IntegralType) (text : List Char) :
    ReadsLiterals numType text ↔
      ∀ value rest, scan 0 text = some (value, rest) → value ≠ 0 →
        rest = [] ∧ numType.Fits value := by
  rw [readsLiterals_iff_refuses]
  constructor
  · intro refuses value rest scanned nonzero
    by_contra wrong
    have noLiteral : ¬ ∃ value, Literal text value ∧ numType.Fits value := by
      rintro ⟨literalValue, literal, fits⟩
      have same := (Strtol.scan_eq_nil_iff.mpr literal).symm.trans scanned
      simp only [Option.some.injEq, Prod.mk.injEq] at same
      exact wrong ⟨same.2.symm, same.1 ▸ fits⟩
    have refused := refuses 0 noLiteral
    rw [getEditNum_of_ne_zero scanned nonzero] at refused
    cases refused
  · intro whole dest noLiteral
    cases scanned : scan 0 text with
    | none => exact getEditNum_of_none scanned dest
    | some found =>
        obtain ⟨value, rest⟩ := found
        by_cases zero : value = 0
        · subst zero
          rw [getEditNum_of_zero scanned, if_neg]
          rintro rfl
          exact noLiteral ⟨0, Strtol.scan_eq_nil_iff.mp scanned, IntegralType.fits_zero numType⟩
        · obtain ⟨rfl, fits⟩ := whole value rest scanned zero
          exact absurd ⟨value, Strtol.scan_eq_nil_iff.mp scanned, fits⟩ noLiteral

/-- Trailing text. -/
theorem getEditNum_takes_trailing :
    ¬ ∀ (numType : IntegralType) (text : List Char), ReadsLiterals numType text := by
  intro claim
  have reads := (claim IntegralType.int "12abc".toList).refuses 0 ?_
  · exact absurd reads (by decide)
  · rintro ⟨value, literal, -⟩
    have scanned := Strtol.scan_eq_nil_iff.mpr literal
    have found : scan 0 "12abc".toList = some (12, "abc".toList) := by decide
    rw [found] at scanned
    cases scanned

end EditControl

end LeanMiniViews
