import LeanMiniViews.CheckedRatio

/-!
`RoundedQuotient` against rounding to the nearest integer, where a tie goes away from zero, for
every sign of the dividend and of the divisor.
-/

namespace LeanMiniViews

open CheckedInt (InRange add neg div)

structure RoundsAway (dividend divisor quotient : Int) : Prop where
  nearest : 2 * |dividend - quotient * divisor| ≤ |divisor|
  away : 2 * |dividend - quotient * divisor| = |divisor| → |dividend| ≤ |quotient * divisor|

namespace RoundsAway

variable {dividend larger divisor quotient other : Int}

theorem neg_dividend (rounds : RoundsAway dividend divisor quotient) :
    RoundsAway (-dividend) divisor (-quotient) := by
  have error : |-dividend - -quotient * divisor| = |dividend - quotient * divisor| := by
    rw [← abs_neg]
    congr 1
    ring
  constructor
  · rw [error]
    exact rounds.nearest
  · rw [error, Int.neg_mul, abs_neg, abs_neg]
    exact rounds.away

theorem neg_divisor (rounds : RoundsAway dividend divisor quotient) :
    RoundsAway dividend (-divisor) (-quotient) := by
  constructor
  · rw [Int.neg_mul_neg, abs_neg]
    exact rounds.nearest
  · rw [Int.neg_mul_neg, abs_neg]
    exact rounds.away

theorem mono (rounds : RoundsAway dividend divisor quotient)
    (roundsLarger : RoundsAway larger divisor other) (positive : 0 < divisor)
    (ordered : dividend ≤ larger) : quotient ≤ other := by
  by_contra above
  have apart : other * divisor + divisor ≤ quotient * divisor := by
    have step : (other + 1) * divisor ≤ quotient * divisor :=
      Int.mul_le_mul_of_nonneg_right (by omega) positive.le
    rwa [Int.add_mul, Int.one_mul] at step
  have near := rounds.nearest
  have nearLarger := roundsLarger.nearest
  have tie := rounds.away
  have tieLarger := roundsLarger.away
  rw [abs_of_pos positive] at near nearLarger tie tieLarger
  simp only [Int.abs_eq_natAbs] at near nearLarger tie tieLarger
  -- Both are half a divisor away, on either side, and the one closer to zero is not allowed.
  have same : dividend = larger := by omega
  subst same
  have reached := tie (by omega)
  have reachedLarger := tieLarger (by omega)
  rcases le_or_gt 0 other with otherNonneg | otherNegative
  · have product : 0 ≤ other * divisor := Int.mul_nonneg otherNonneg positive.le
    omega
  · have product : other * divisor + divisor ≤ 0 := by
      have below := Int.mul_le_mul_of_nonneg_right (show other + 1 ≤ 0 by omega) positive.le
      rwa [Int.add_mul, Int.one_mul, Int.zero_mul] at below
    omega

theorem unique (rounds : RoundsAway dividend divisor quotient)
    (roundsOther : RoundsAway dividend divisor other) (nonzero : divisor ≠ 0) :
    quotient = other := by
  rcases lt_or_gt_of_ne nonzero with negative | positive
  · have below := rounds.neg_divisor.mono roundsOther.neg_divisor (by omega) le_rfl
    have above := roundsOther.neg_divisor.mono rounds.neg_divisor (by omega) le_rfl
    omega
  · have below := rounds.mono roundsOther positive le_rfl
    have above := roundsOther.mono rounds positive le_rfl
    omega

end RoundsAway

/-! The code. -/

theorem roundedQuotient_zero_right (dividend : Int) : roundedQuotient dividend 0 = 0 := by
  simp [roundedQuotient]

theorem roundedQuotient_neg_right (dividend divisor : Int) :
    roundedQuotient dividend (-divisor) = -roundedQuotient dividend divisor := by
  unfold roundedQuotient
  rw [Int.neg_neg]
  rcases lt_trichotomy divisor 0 with negative | zero | positive
  · rw [if_pos (show -divisor > 0 by omega), if_neg (show ¬ divisor > 0 by omega), if_pos negative]
    split
    · rw [Int.neg_neg]
    · split <;> rfl
  · subst zero
    rfl
  · rw [if_neg (show ¬ -divisor > 0 by omega), if_pos (show -divisor < 0 by omega),
      if_pos positive]
    split
    · rfl
    · split
      · rw [Int.neg_neg]
      · rfl

theorem roundedQuotient_neg_left (dividend divisor : Int) :
    roundedQuotient (-dividend) divisor = -roundedQuotient dividend divisor := by
  rcases lt_trichotomy divisor 0 with negative | zero | positive
  · have opposite := roundedQuotient_neg dividend (show 0 < -divisor by omega)
    rw [roundedQuotient_neg_right, roundedQuotient_neg_right] at opposite
    omega
  · subst zero
    rw [roundedQuotient_zero_right, roundedQuotient_zero_right]
    rfl
  · exact roundedQuotient_neg dividend positive

theorem roundsAway_of_nonneg {dividend divisor : Int} (nonneg : 0 ≤ dividend)
    (positive : 0 < divisor) :
    RoundsAway dividend divisor (roundedQuotient dividend divisor) := by
  rw [roundedQuotient_of_nonneg nonneg positive]
  have quotientNonneg : 0 ≤ (dividend + divisor / 2) / divisor :=
    Int.ediv_nonneg (by omega) positive.le
  have whole := Int.mul_ediv_add_emod (dividend + divisor / 2) divisor
  have small := Int.emod_lt_of_pos (dividend + divisor / 2) positive
  have left := Int.emod_nonneg (dividend + divisor / 2) positive.ne'
  rw [Int.mul_comm] at whole
  have product : 0 ≤ (dividend + divisor / 2) / divisor * divisor :=
    Int.mul_nonneg quotientNonneg positive.le
  constructor
  · rw [abs_of_pos positive, Int.abs_eq_natAbs]
    omega
  · rw [abs_of_pos positive, abs_of_nonneg nonneg, abs_of_nonneg product, Int.abs_eq_natAbs]
    omega

theorem roundedQuotient_roundsAway (dividend : Int) {divisor : Int} (nonzero : divisor ≠ 0) :
    RoundsAway dividend divisor (roundedQuotient dividend divisor) := by
  have of_pos (dividend : Int) {divisor : Int} (positive : 0 < divisor) :
      RoundsAway dividend divisor (roundedQuotient dividend divisor) := by
    rcases le_or_gt 0 dividend with nonneg | negative
    · exact roundsAway_of_nonneg nonneg positive
    · have mirrored := (roundsAway_of_nonneg (show 0 ≤ -dividend by omega) positive).neg_dividend
      rwa [roundedQuotient_neg_left, Int.neg_neg, Int.neg_neg] at mirrored
  rcases lt_or_gt_of_ne nonzero with negative | positive
  · have mirrored := (of_pos dividend (show 0 < -divisor by omega)).neg_divisor
    rwa [roundedQuotient_neg_right, Int.neg_neg, Int.neg_neg] at mirrored
  · exact of_pos dividend positive

/-- The code computes the one quotient that is nearest and, of two that are, away from zero. -/
theorem roundsAway_iff {dividend divisor quotient : Int} (nonzero : divisor ≠ 0) :
    RoundsAway dividend divisor quotient ↔ quotient = roundedQuotient dividend divisor := by
  constructor
  · intro rounds
    exact rounds.unique (roundedQuotient_roundsAway dividend nonzero) nonzero
  · rintro rfl
    exact roundedQuotient_roundsAway dividend nonzero

theorem roundedQuotient_mono_left {smaller larger divisor : Int} (positive : 0 < divisor)
    (ordered : smaller ≤ larger) :
    roundedQuotient smaller divisor ≤ roundedQuotient larger divisor :=
  (roundedQuotient_roundsAway smaller positive.ne').mono
    (roundedQuotient_roundsAway larger positive.ne') positive ordered

theorem abs_roundedQuotient_le {dividend divisor : Int} {bound : Nat}
    (bounded : |dividend| ≤ bound * |divisor|) : |roundedQuotient dividend divisor| ≤ bound := by
  have of_pos {divisor : Int} (positive : 0 < divisor) (bounded : |dividend| ≤ bound * divisor) :
      |roundedQuotient dividend divisor| ≤ bound := by
    obtain ⟨lower, upper⟩ := abs_le.mp bounded
    have exactly := roundedQuotient_mul (show (0 : Int) ≤ bound by omega) positive
    have below := roundedQuotient_mono_left positive upper
    have above := roundedQuotient_mono_left positive lower
    rw [roundedQuotient_neg_left, exactly] at above
    rw [exactly] at below
    exact abs_le.mpr ⟨above, below⟩
  rcases lt_trichotomy divisor 0 with negative | zero | positive
  · rw [abs_of_neg negative] at bounded
    have opposite := of_pos (show 0 < -divisor by omega) bounded
    rwa [roundedQuotient_neg_right, abs_neg] at opposite
  · subst zero
    rw [roundedQuotient_zero_right]
    simp
  · rw [abs_of_pos positive] at bounded
    exact of_pos positive bounded

/-! In 32 bits. -/

theorem roundedQuotientChecked_of_pos {dividend divisor : Int} (positive : 0 < divisor)
    (divisorFits : divisor ≤ 2147483647) (room : |dividend| + divisor / 2 ≤ 2147483647) :
    roundedQuotientChecked dividend divisor = some (roundedQuotient dividend divisor) := by
  rw [roundedQuotientChecked_eq positive.le divisorFits, if_pos fun _ => room]

/-- A negative divisor leaves the quotient by the opposite one, negated once if the dividend is
positive. -/
theorem roundedQuotientChecked_of_neg {dividend divisor : Int} (negative : divisor < 0)
    (divisorFits : -divisor ≤ 2147483647) (room : |dividend| + -divisor / 2 ≤ 2147483647) :
    roundedQuotientChecked dividend divisor = some (roundedQuotient dividend divisor) := by
  have positive : 0 < -divisor := by omega
  have opposite : neg divisor = some (-divisor) :=
    CheckedInt.exact_of_inRange ⟨by omega, divisorFits⟩
  rw [Int.abs_eq_natAbs] at room
  rcases lt_trichotomy dividend 0 with below | zero | above
  · have mirrored : neg dividend = some (-dividend) :=
      CheckedInt.exact_of_inRange ⟨by omega, by omega⟩
    have same : roundedQuotientChecked dividend divisor =
        roundedQuotientChecked (-dividend) (-divisor) := by
      unfold roundedQuotientChecked
      rw [if_neg (by omega), if_pos negative, if_neg (by omega), if_pos below,
        if_pos (by omega), if_pos (by omega), mirrored, opposite]
      rfl
    rw [same, roundedQuotientChecked_of_pos positive divisorFits
      (by rw [Int.abs_eq_natAbs]; omega), roundedQuotient_neg_left, roundedQuotient_neg_right,
      Int.neg_neg]
  · subst zero
    simp [roundedQuotientChecked, roundedQuotient]
  · have same : roundedQuotientChecked dividend divisor =
        (roundedQuotientChecked dividend (-divisor)).bind neg := by
      unfold roundedQuotientChecked
      rw [if_neg (by omega), if_pos negative, if_pos above, if_pos (by omega), if_pos above,
        opposite]
      simp only [Option.bind_eq_bind, Option.bind_some, Option.bind_assoc]
    have quotientNonneg := roundedQuotient_nonneg above.le positive
    have quotientSmall : |roundedQuotient dividend (-divisor)| ≤ dividend.toNat := by
      refine abs_roundedQuotient_le ?_
      rw [abs_of_pos above, Int.toNat_of_nonneg above.le]
      exact le_mul_of_one_le_right above.le (by rw [abs_of_pos positive]; omega)
    rw [Int.abs_eq_natAbs] at quotientSmall
    rw [same, roundedQuotientChecked_of_pos positive divisorFits
      (by rw [Int.abs_eq_natAbs]; omega), Option.bind_some, neg,
      CheckedInt.exact_of_inRange ⟨by omega, by omega⟩, roundedQuotient_neg_right, Int.neg_neg]

theorem roundedQuotientChecked_of_room {dividend divisor : Int}
    (divisorFits : |divisor| ≤ 2147483647) (room : |dividend| + |divisor| / 2 ≤ 2147483647) :
    roundedQuotientChecked dividend divisor = some (roundedQuotient dividend divisor) := by
  rcases lt_trichotomy divisor 0 with negative | zero | positive
  · rw [abs_of_neg negative] at divisorFits room
    exact roundedQuotientChecked_of_neg negative divisorFits room
  · subst zero
    simp [roundedQuotientChecked, roundedQuotient]
  · rw [abs_of_pos positive] at divisorFits room
    exact roundedQuotientChecked_of_pos positive divisorFits room

/-! What the code that fits a window relies on. -/

structure RoundsToNearest (dividend divisor : Int) : Prop where
  inInt : roundedQuotientChecked dividend divisor = some (roundedQuotient dividend divisor)
  byZero : divisor = 0 → roundedQuotient dividend divisor = 0
  nearest : divisor ≠ 0 →
    2 * |dividend - roundedQuotient dividend divisor * divisor| ≤ |divisor|
  tie : divisor ≠ 0 → 2 * |dividend - roundedQuotient dividend divisor * divisor| = |divisor| →
    |dividend| ≤ |roundedQuotient dividend divisor * divisor|
  oddLeft : roundedQuotient (-dividend) divisor = -roundedQuotient dividend divisor
  oddRight : roundedQuotient dividend (-divisor) = -roundedQuotient dividend divisor
  monotone : 0 < divisor → ∀ larger, dividend ≤ larger →
    roundedQuotient dividend divisor ≤ roundedQuotient larger divisor
  bounded : ∀ bound : Nat, |dividend| ≤ bound * |divisor| →
    |roundedQuotient dividend divisor| ≤ bound

theorem roundedQuotient_toNearest {dividend divisor : Int}
    (room : |dividend| + |divisor| / 2 ≤ 2147483647) (divisorFits : |divisor| ≤ 2147483647) :
    RoundsToNearest dividend divisor where
  inInt := roundedQuotientChecked_of_room divisorFits room
  byZero := by
    rintro rfl
    exact roundedQuotient_zero_right dividend
  nearest nonzero := (roundedQuotient_roundsAway dividend nonzero).nearest
  tie nonzero := (roundedQuotient_roundsAway dividend nonzero).away
  oddLeft := roundedQuotient_neg_left dividend divisor
  oddRight := roundedQuotient_neg_right dividend divisor
  monotone positive _ ordered := roundedQuotient_mono_left positive ordered
  bounded _ := abs_roundedQuotient_le

theorem roundedQuotient_toNearest_tie : RoundsToNearest (-7) 2 :=
  roundedQuotient_toNearest (by decide) (by decide)

end LeanMiniViews
