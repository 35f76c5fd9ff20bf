import LeanMiniViews.CheckedSizesCore
import LeanMiniViews.FixRatio

/-!
When 32 bits are enough for `FixRatio`, whatever guide was stored, as long as its sides have the
same sign.
-/

namespace LeanMiniViews

open CheckedInt (InRange exact add sub mul neg div)

/-! The rounded quotient. -/

theorem roundedQuotientChecked_eq {dividend divisor : Int} (nonneg : 0 ≤ divisor)
    (bounded : divisor ≤ 2147483647) :
    roundedQuotientChecked dividend divisor =
      if 0 < divisor → |dividend| + divisor / 2 ≤ 2147483647 then
        some (roundedQuotient dividend divisor)
      else none := by
  rcases nonneg.eq_or_lt with zero | positive
  · subst zero
    simp [roundedQuotientChecked, roundedQuotient]
  have half : div divisor 2 = some (divisor.tdiv 2) :=
    CheckedInt.div_of_nonneg nonneg bounded (by decide)
  have halved : divisor.tdiv 2 = divisor / 2 := Int.tdiv_eq_ediv_of_nonneg nonneg
  have quotient {size : Int} (sizeNonneg : 0 ≤ size) :
      ((add size (divisor.tdiv 2)).bind fun sum => div sum divisor) =
        if size + divisor / 2 ≤ 2147483647 then
          some ((size + divisor.tdiv 2).tdiv divisor)
        else none := by
    rw [add, halved]
    by_cases room : size + divisor / 2 ≤ 2147483647
    · rw [CheckedInt.exact_of_inRange ⟨by omega, room⟩, Option.bind_some, if_pos room,
        CheckedInt.div_of_nonneg (by omega) room positive]
    · rw [CheckedInt.exact_of_not_inRange fun fits => room fits.2, if_neg room]
      rfl
  simp only [roundedQuotientChecked, roundedQuotient, gt_iff_lt, positive, if_true, true_imp_iff,
    Option.bind_eq_bind, half, Option.bind_some]
  rcases lt_trichotomy dividend 0 with below | zero | above
  · rw [if_neg below.not_gt, if_pos below, if_neg below.not_gt, if_pos below, abs_of_neg below]
    by_cases fits : InRange (-dividend)
    · rw [neg, CheckedInt.exact_of_inRange fits, Option.bind_some, ← Option.bind_assoc,
        quotient (by omega)]
      split
      · rename_i room
        have lower : 0 ≤ (-dividend + divisor / 2) / divisor := Int.ediv_nonneg (by omega) nonneg
        have upper := Int.ediv_le_self divisor (show 0 ≤ -dividend + divisor / 2 by omega)
        rw [Option.bind_some, neg, CheckedInt.exact_of_inRange]
        rw [halved, Int.tdiv_eq_ediv_of_nonneg (by omega)]
        exact ⟨by omega, by omega⟩
      · rfl
    · have far : ¬ (-dividend + divisor / 2 ≤ 2147483647) := fun room => fits ⟨by omega, by omega⟩
      rw [neg, CheckedInt.exact_of_not_inRange fits, if_neg far]
      rfl
  · subst zero
    simp
    omega
  · rw [if_pos above, if_pos above, quotient above.le, abs_of_pos above]

theorem scaledChecked_eq (size other : Int) {divisor : Int} (nonneg : 0 ≤ divisor)
    (bounded : divisor ≤ 32767) :
    scaledChecked size other divisor =
      if InRange (size * other) ∧ (0 < divisor → |size * other| + divisor / 2 ≤ 2147483647) then
        some (roundedQuotient (size * other) divisor)
      else none := by
  rw [scaledChecked, mul, Option.bind_eq_bind]
  by_cases fits : InRange (size * other)
  · rw [CheckedInt.exact_of_inRange fits, Option.bind_some,
      roundedQuotientChecked_eq nonneg (by omega)]
    simp only [fits, true_and]
  · rw [CheckedInt.exact_of_not_inRange fits, if_neg fun both => fits both.1]
    rfl

theorem roundedQuotient_neg (dividend : Int) {divisor : Int} (positive : 0 < divisor) :
    roundedQuotient (-dividend) divisor = -roundedQuotient dividend divisor := by
  unfold roundedQuotient
  rw [if_pos positive, if_pos positive]
  rcases lt_trichotomy dividend 0 with below | zero | above
  · rw [if_pos (by omega), if_neg (by omega), if_pos below, Int.neg_neg]
  · subst zero
    rfl
  · rw [if_neg (by omega), if_pos (by omega), if_pos above, Int.neg_neg]

theorem roundedQuotient_le_iff {dividend divisor bound : Int} (positive : 0 < divisor)
    (nonneg : 0 ≤ bound) :
    roundedQuotient dividend divisor ≤ bound ↔ 2 * dividend < (2 * bound + 1) * divisor := by
  have product : 0 ≤ bound * divisor := Int.mul_nonneg nonneg positive.le
  have double : (2 * bound + 1) * divisor = 2 * (bound * divisor) + divisor := by ring
  rcases le_or_gt 0 dividend with above | below
  · rw [roundedQuotient_of_nonneg above positive, ← Int.lt_add_one_iff,
      Int.ediv_lt_iff_lt_mul positive, Int.add_mul, Int.one_mul]
    omega
  · have opposite := roundedQuotient_nonneg (show 0 ≤ -dividend by omega) positive
    rw [roundedQuotient_neg dividend positive] at opposite
    exact iff_of_true (by omega) (by omega)

theorem le_roundedQuotient_iff {dividend divisor bound : Int} (positive : 0 < divisor)
    (nonpos : bound ≤ 0) :
    bound ≤ roundedQuotient dividend divisor ↔ (2 * bound - 1) * divisor < 2 * dividend := by
  have mirrored := @roundedQuotient_le_iff (-dividend) divisor (-bound) positive (by omega)
  have factor : (2 * -bound + 1) * divisor = -((2 * bound - 1) * divisor) := by ring
  rw [roundedQuotient_neg dividend positive, factor] at mirrored
  omega

theorem inRange_add_iff {dividend divisor border : Int} (positive : 0 < divisor)
    (fits : InRange border) :
    InRange (roundedQuotient dividend divisor + border) ↔
      (2 * (-2147483648 - border) - 1) * divisor < 2 * dividend ∧
        2 * dividend < (2 * (2147483647 - border) + 1) * divisor := by
  obtain ⟨lower, upper⟩ := fits
  rw [← le_roundedQuotient_iff positive (show -2147483648 - border ≤ 0 by omega),
    ← roundedQuotient_le_iff positive (show 0 ≤ 2147483647 - border by omega), InRange]
  omega

/-! One side of the guide, which `FixRatio` makes smaller. -/

def SameSign (left right : Int) : Prop := 0 ≤ left ∧ 0 ≤ right ∨ left ≤ 0 ∧ right ≤ 0

/-- The new side is the largest `int` away from the side of the guide. -/
def FarFromGuide (guide other shown otherShown : Int) : Prop :=
  guide = 2147483647 ∧ 2 * (other * otherShown) < shown ∨
    guide = 0 ∧ shown = 1 ∧ other * otherShown = -2147483647

structure SideFits (guide other shown otherShown : Int) : Prop where
  rounding : 0 < shown → other * otherShown < guide * shown →
    |other * otherShown| + shown / 2 ≤ 2147483647
  margin : ¬ FarFromGuide guide other shown otherShown

structure RegionFits (guideMiniWidth guideMiniHeight sourceWidth sourceHeight : Int) : Prop where
  products : (sourceWidth ≤ guideMiniWidth ↔ sourceHeight ≤ guideMiniHeight) →
    InRange (guideMiniWidth * sourceHeight) ∧ InRange (guideMiniHeight * sourceWidth)
  width : SideFits guideMiniWidth guideMiniHeight sourceHeight sourceWidth
  height : SideFits guideMiniHeight guideMiniWidth sourceWidth sourceHeight

structure WithinGuide (guide new : Int) : Prop where
  le : new ≤ guide
  near : guide - new ≤ 2147483647
  fits : InRange new

variable {guide other shown otherShown : Int}

theorem withinGuide_self (fits : InRange guide) : WithinGuide guide guide :=
  ⟨Int.le_refl _, by omega, fits⟩

theorem farFromGuide_less (signs : SameSign guide other) (shownNonneg : 0 ≤ otherShown)
    (far : FarFromGuide guide other shown otherShown) :
    0 < shown ∧ other * otherShown < guide * shown := by
  rcases far with ⟨rfl, small⟩ | ⟨rfl, rfl, product⟩
  · have otherNonneg : 0 ≤ other := by
      unfold SameSign at signs
      omega
    have product := Int.mul_nonneg otherNonneg shownNonneg
    omega
  · omega

theorem sideFits_of_kept (signs : SameSign guide other) (shownNonneg : 0 ≤ otherShown)
    (kept : ¬ (0 < shown ∧ other * otherShown < guide * shown)) :
    SideFits guide other shown otherShown :=
  ⟨fun positive less => absurd ⟨positive, less⟩ kept,
    fun far => kept (farFromGuide_less signs shownNonneg far)⟩

theorem scaledSide_nonneg (guideFits : InRange guide) (guideNonneg : 0 ≤ guide)
    (otherNonneg : 0 ≤ other) (positive : 0 < shown) (shownNonneg : 0 ≤ otherShown)
    (smaller : other * otherShown ≤ guide * shown) :
    let new := roundedQuotient (other * otherShown) shown
    WithinGuide guide new ∧
      (guide - new < 2147483647 ↔ ¬ FarFromGuide guide other shown otherShown) := by
  intro new
  have product := Int.mul_nonneg otherNonneg shownNonneg
  have newNonneg : 0 ≤ new := roundedQuotient_nonneg product positive
  have le : new ≤ guide := roundedQuotient_le product smaller guideNonneg positive
  have zero : new ≤ 0 ↔ 2 * (other * otherShown) < (2 * 0 + 1) * shown :=
    roundedQuotient_le_iff positive (Int.le_refl 0)
  obtain ⟨-, upper⟩ := guideFits
  refine ⟨⟨le, by omega, ⟨by omega, by omega⟩⟩, ?_⟩
  unfold FarFromGuide
  omega

theorem scaledSide_nonpos (guideFits : InRange guide) (guideNonpos : guide ≤ 0)
    (otherNonpos : other ≤ 0) (positive : 0 < shown) (shownNonneg : 0 ≤ otherShown)
    (smaller : other * otherShown ≤ guide * shown)
    (room : |other * otherShown| + shown / 2 ≤ 2147483647) :
    let new := roundedQuotient (other * otherShown) shown
    WithinGuide guide new ∧
      (guide - new < 2147483647 ↔ ¬ FarFromGuide guide other shown otherShown) := by
  intro new
  have product : other * otherShown ≤ 0 :=
    Int.mul_nonpos_of_nonpos_of_nonneg otherNonpos shownNonneg
  rw [abs_of_nonpos product] at room
  have opposite : -new = (-(other * otherShown) + shown / 2) / shown := by
    change -roundedQuotient (other * otherShown) shown = _
    rw [← roundedQuotient_neg _ positive, roundedQuotient_of_nonneg (by omega) positive]
  have above : -guide ≤ -new := by
    rw [opposite, Int.le_ediv_iff_mul_le positive, Int.neg_mul]
    omega
  have below : -new * shown ≤ -(other * otherShown) + shown / 2 := by
    rw [opposite]
    exact Int.ediv_mul_le _ positive.ne'
  have near : -new ≤ -new * shown := le_mul_of_one_le_right (by omega) positive
  refine ⟨⟨by omega, by omega, ⟨by omega, by omega⟩⟩, ?_⟩
  unfold FarFromGuide
  constructor
  · rintro closer (⟨rfl, -⟩ | ⟨rfl, rfl, least⟩)
    · omega
    · rw [least] at opposite
      omega
  · intro notFar
    by_contra far
    have whole : -new = 2147483647 := by omega
    rw [whole] at below
    exact notFar (Or.inr ⟨by omega, by omega, by omega⟩)

theorem scaledSide (signs : SameSign guide other) (guideFits : InRange guide) (positive : 0 < shown)
    (shownNonneg : 0 ≤ otherShown) (smaller : other * otherShown ≤ guide * shown)
    (room : |other * otherShown| + shown / 2 ≤ 2147483647) :
    let new := roundedQuotient (other * otherShown) shown
    WithinGuide guide new ∧
      (guide - new < 2147483647 ↔ SideFits guide other shown otherShown) := by
  intro new
  have margin : WithinGuide guide new ∧
      (guide - new < 2147483647 ↔ ¬ FarFromGuide guide other shown otherShown) := by
    rcases signs with ⟨guideNonneg, otherNonneg⟩ | ⟨guideNonpos, otherNonpos⟩
    · exact scaledSide_nonneg guideFits guideNonneg otherNonneg positive shownNonneg smaller
    · exact scaledSide_nonpos guideFits guideNonpos otherNonpos positive shownNonneg smaller room
  refine ⟨margin.1, margin.2.trans ⟨fun notFar => ⟨fun _ _ => room, notFar⟩, ?_⟩⟩
  exact fun fits => fits.margin

theorem scaledChecked_side (signs : SameSign guide other) (guideFits : InRange guide)
    (positive : 0 < shown) (bounded : shown ≤ 32767) (shownNonneg : 0 ≤ otherShown)
    (productFits : InRange (other * otherShown)) (smaller : other * otherShown ≤ guide * shown)
    (strict : other * otherShown < guide * shown ∨
      |other * otherShown| + shown / 2 ≤ 2147483647) :
    (scaledChecked other otherShown shown = none ∧ ¬ SideFits guide other shown otherShown) ∨
      (scaledChecked other otherShown shown =
          some (roundedQuotient (other * otherShown) shown) ∧
        WithinGuide guide (roundedQuotient (other * otherShown) shown) ∧
        (guide - roundedQuotient (other * otherShown) shown < 2147483647 ↔
          SideFits guide other shown otherShown)) := by
  rw [scaledChecked_eq other otherShown positive.le bounded]
  by_cases room : |other * otherShown| + shown / 2 ≤ 2147483647
  · rw [if_pos ⟨productFits, fun _ => room⟩]
    exact Or.inr ⟨rfl, scaledSide signs guideFits positive shownNonneg smaller room⟩
  · have less := strict.resolve_right room
    rw [if_neg fun fits => room (fits.2 positive)]
    exact Or.inl ⟨rfl, fun fits => room (fits.rounding positive less)⟩

namespace MiniView

/-! Both sides. -/

/-- The size `FixRatio` fits into the guide, and when the margins around that can be computed. -/
inductive FittedOutcome (guideMiniWidth guideMiniHeight : Int) (region : Prop)
    (size : Int × Int) : Option (Int × Int) → Prop where
  | fails (outside : ¬ region) : FittedOutcome guideMiniWidth guideMiniHeight region size none
  | fits (width : WithinGuide guideMiniWidth size.1) (height : WithinGuide guideMiniHeight size.2)
      (margins : guideMiniWidth - size.1 < 2147483647 ∧
        guideMiniHeight - size.2 < 2147483647 ↔ region) :
      FittedOutcome guideMiniWidth guideMiniHeight region size (some size)

/-- A guide whose sides have the same sign, and a source or clip with sides of a screen. -/
structure Sides (guideMiniWidth guideMiniHeight sourceWidth sourceHeight : Int) : Prop where
  signs : SameSign guideMiniWidth guideMiniHeight
  guideWidth : InRange guideMiniWidth
  guideHeight : InRange guideMiniHeight
  width_nonneg : 0 ≤ sourceWidth
  width_le : sourceWidth ≤ 32767
  height_nonneg : 0 ≤ sourceHeight
  height_le : sourceHeight ≤ 32767

variable {guideMiniWidth guideMiniHeight sourceWidth sourceHeight : Int}

theorem Sides.swap (sides : Sides guideMiniWidth guideMiniHeight sourceWidth sourceHeight) :
    Sides guideMiniHeight guideMiniWidth sourceHeight sourceWidth :=
  ⟨sides.signs.imp And.symm And.symm, sides.guideHeight, sides.guideWidth, sides.height_nonneg,
    sides.height_le, sides.width_nonneg, sides.width_le⟩

theorem regionFits_swap
    (region : RegionFits guideMiniWidth guideMiniHeight sourceWidth sourceHeight) :
    RegionFits guideMiniHeight guideMiniWidth sourceHeight sourceWidth :=
  ⟨fun compared => (region.products compared.symm).symm, region.height, region.width⟩

section Outcomes

variable (sides : Sides guideMiniWidth guideMiniHeight sourceWidth sourceHeight)
  (products : (sourceWidth ≤ guideMiniWidth ↔ sourceHeight ≤ guideMiniHeight) →
    InRange (guideMiniWidth * sourceHeight) ∧ InRange (guideMiniHeight * sourceWidth))

include sides products

theorem kept_outcome
    (notHeight : ¬ (0 < sourceWidth ∧
      guideMiniWidth * sourceHeight < guideMiniHeight * sourceWidth))
    (notWidth : ¬ (0 < sourceHeight ∧
      guideMiniHeight * sourceWidth < guideMiniWidth * sourceHeight)) :
    FittedOutcome guideMiniWidth guideMiniHeight
      (RegionFits guideMiniWidth guideMiniHeight sourceWidth sourceHeight)
      (guideMiniWidth, guideMiniHeight) (some (guideMiniWidth, guideMiniHeight)) := by
  refine .fits (withinGuide_self sides.guideWidth) (withinGuide_self sides.guideHeight) ?_
  refine iff_of_true ⟨by simp, by simp⟩ ⟨products, ?_, ?_⟩
  · exact sideFits_of_kept sides.signs sides.width_nonneg notWidth
  · exact sideFits_of_kept sides.swap.signs sides.height_nonneg notHeight

theorem height_outcome (productFits : InRange (guideMiniWidth * sourceHeight))
    (positive : 0 < sourceWidth)
    (smaller : guideMiniWidth * sourceHeight ≤ guideMiniHeight * sourceWidth)
    (strict : guideMiniWidth * sourceHeight < guideMiniHeight * sourceWidth ∨
      |guideMiniWidth * sourceHeight| + sourceWidth / 2 ≤ 2147483647) :
    FittedOutcome guideMiniWidth guideMiniHeight
      (RegionFits guideMiniWidth guideMiniHeight sourceWidth sourceHeight)
      (guideMiniWidth, roundedQuotient (guideMiniWidth * sourceHeight) sourceWidth)
      ((scaledChecked guideMiniWidth sourceHeight sourceWidth).bind
        fun ch => some (guideMiniWidth, ch)) := by
  have kept := @sideFits_of_kept guideMiniWidth guideMiniHeight sourceHeight sourceWidth
    sides.signs sides.width_nonneg fun high => by omega
  rcases scaledChecked_side sides.swap.signs sides.guideHeight positive sides.width_le
    sides.height_nonneg productFits smaller strict with
    ⟨fails, outside⟩ | ⟨scaled, within, margin⟩
  · rw [fails]
    exact .fails fun region => outside region.height
  · rw [scaled]
    refine .fits (withinGuide_self sides.guideWidth) within ?_
    constructor
    · rintro ⟨-, near⟩
      exact ⟨products, kept, margin.mp near⟩
    · intro region
      exact ⟨by simp, margin.mpr region.height⟩

theorem width_outcome (productFits : InRange (guideMiniHeight * sourceWidth))
    (positive : 0 < sourceHeight)
    (smaller : guideMiniHeight * sourceWidth ≤ guideMiniWidth * sourceHeight)
    (strict : guideMiniHeight * sourceWidth < guideMiniWidth * sourceHeight ∨
      |guideMiniHeight * sourceWidth| + sourceHeight / 2 ≤ 2147483647) :
    FittedOutcome guideMiniWidth guideMiniHeight
      (RegionFits guideMiniWidth guideMiniHeight sourceWidth sourceHeight)
      (roundedQuotient (guideMiniHeight * sourceWidth) sourceHeight, guideMiniHeight)
      ((scaledChecked guideMiniHeight sourceWidth sourceHeight).bind
        fun cw => some (cw, guideMiniHeight)) := by
  have mirrored := height_outcome sides.swap (fun compared => (products compared.symm).symm)
    productFits positive smaller strict
  generalize scaledChecked guideMiniHeight sourceWidth sourceHeight = checked at mirrored ⊢
  cases checked with
  | none =>
      cases mirrored with
      | fails outside => exact .fails fun region => outside (regionFits_swap region)
  | some cw =>
      cases mirrored with
      | fits height width margins =>
          refine .fits width height (and_comm.trans (margins.trans ?_))
          exact ⟨regionFits_swap, regionFits_swap⟩

end Outcomes

theorem compared_outcome
    (sides : Sides guideMiniWidth guideMiniHeight sourceWidth sourceHeight)
    (compared : sourceWidth ≤ guideMiniWidth ↔ sourceHeight ≤ guideMiniHeight) :
    FittedOutcome guideMiniWidth guideMiniHeight
      (RegionFits guideMiniWidth guideMiniHeight sourceWidth sourceHeight)
      (if guideMiniWidth * sourceHeight < guideMiniHeight * sourceWidth ∧ 0 < sourceWidth then
        (guideMiniWidth, roundedQuotient (guideMiniWidth * sourceHeight) sourceWidth)
      else if guideMiniHeight * sourceWidth < guideMiniWidth * sourceHeight ∧
          0 < sourceHeight then
        (roundedQuotient (guideMiniHeight * sourceWidth) sourceHeight, guideMiniHeight)
      else (guideMiniWidth, guideMiniHeight))
      (if InRange (guideMiniWidth * sourceHeight) ∧ InRange (guideMiniHeight * sourceWidth) then
        if guideMiniWidth * sourceHeight < guideMiniHeight * sourceWidth ∧ 0 < sourceWidth then
          (scaledChecked guideMiniWidth sourceHeight sourceWidth).bind
            fun ch => some (guideMiniWidth, ch)
        else if guideMiniHeight * sourceWidth < guideMiniWidth * sourceHeight ∧
            0 < sourceHeight then
          (scaledChecked guideMiniHeight sourceWidth sourceHeight).bind
            fun cw => some (cw, guideMiniHeight)
        else some (guideMiniWidth, guideMiniHeight)
      else none) := by
  by_cases products : InRange (guideMiniWidth * sourceHeight) ∧
      InRange (guideMiniHeight * sourceWidth)
  · rw [if_pos products]
    by_cases wide : guideMiniWidth * sourceHeight < guideMiniHeight * sourceWidth ∧
        0 < sourceWidth
    · rw [if_pos wide, if_pos wide]
      exact height_outcome sides (fun _ => products) products.1 wide.2 wide.1.le (Or.inl wide.1)
    rw [if_neg wide, if_neg wide]
    by_cases high : guideMiniHeight * sourceWidth < guideMiniWidth * sourceHeight ∧
        0 < sourceHeight
    · rw [if_pos high, if_pos high]
      exact width_outcome sides (fun _ => products) products.2 high.2 high.1.le (Or.inl high.1)
    rw [if_neg high, if_neg high]
    exact kept_outcome sides (fun _ => products) (fun less => wide less.symm)
      fun less => high less.symm
  · rw [if_neg products]
    exact .fails fun region => products (region.products compared)

/-- With the source wider than the guide and no higher, the product that is divided is small. -/
theorem small_product (sides : Sides guideMiniWidth guideMiniHeight sourceWidth sourceHeight)
    (wider : guideMiniWidth < sourceWidth) (noHigher : sourceHeight ≤ guideMiniHeight) :
    guideMiniWidth * sourceHeight ≤ guideMiniHeight * sourceWidth ∧
      |guideMiniWidth * sourceHeight| ≤ 32767 * 32767 := by
  obtain ⟨signs, -, -, -, widthLe, heightNonneg, heightLe⟩ := sides
  rcases signs with ⟨widthNonneg, guideNonneg⟩ | ⟨widthNonpos, guideNonpos⟩
  · have product := Int.mul_nonneg widthNonneg heightNonneg
    rw [abs_of_nonneg product]
    constructor
    · calc
        guideMiniWidth * sourceHeight ≤ sourceWidth * guideMiniHeight :=
          Int.mul_le_mul wider.le noHigher heightNonneg (by omega)
        _ = guideMiniHeight * sourceWidth := Int.mul_comm _ _
    · exact Int.mul_le_mul (by omega) heightLe heightNonneg (by omega)
  · obtain rfl : sourceHeight = 0 := by omega
    obtain rfl : guideMiniHeight = 0 := by omega
    simp

/-- The cases are those of the code: the source inside the guide, across it in one direction, or
around it. -/
theorem fittedSizeChecked_outcome
    (sides : Sides guideMiniWidth guideMiniHeight sourceWidth sourceHeight) :
    FittedOutcome guideMiniWidth guideMiniHeight
      (RegionFits guideMiniWidth guideMiniHeight sourceWidth sourceHeight)
      (fittedSize guideMiniWidth guideMiniHeight sourceWidth sourceHeight)
      (fittedSizeChecked guideMiniWidth guideMiniHeight sourceWidth sourceHeight) := by
  simp only [fittedSize, fittedSizeChecked, mul, Int.mul_comm sourceWidth guideMiniHeight,
    Int.mul_comm sourceHeight guideMiniWidth, Option.bind_eq_bind, Option.pure_def, gt_iff_lt,
    CheckedInt.exact_bind_exact]
  by_cases inside : sourceWidth ≤ guideMiniWidth ∧ sourceHeight ≤ guideMiniHeight
  · rw [if_pos inside, if_pos inside]
    simp only [@and_comm (InRange (guideMiniHeight * sourceWidth))
      (InRange (guideMiniWidth * sourceHeight))]
    exact compared_outcome sides (by omega)
  rw [if_neg inside, if_neg inside]
  by_cases wider : guideMiniWidth < sourceWidth ∧ sourceHeight ≤ guideMiniHeight ∧ 0 < sourceWidth
  · rw [if_pos wider, if_pos wider]
    obtain ⟨smaller, small⟩ := small_product sides wider.1 wider.2.1
    have bounds := abs_le.mp small
    have widthLe := sides.width_le
    exact height_outcome sides (fun _ => by omega) ⟨by omega, by omega⟩ wider.2.2 smaller
      (Or.inr (by omega))
  rw [if_neg wider, if_neg wider]
  by_cases higher : sourceWidth ≤ guideMiniWidth ∧ guideMiniHeight < sourceHeight ∧ 0 < sourceHeight
  · rw [if_pos higher, if_pos higher]
    obtain ⟨smaller, small⟩ := small_product sides.swap higher.2.1 higher.1
    have bounds := abs_le.mp small
    have heightLe := sides.height_le
    exact width_outcome sides (fun _ => by omega) ⟨by omega, by omega⟩ higher.2.2 smaller
      (Or.inr (by omega))
  rw [if_neg higher, if_neg higher]
  by_cases around : guideMiniWidth < sourceWidth ∧ guideMiniHeight < sourceHeight
  · rw [if_pos around, if_pos around]
    -- Here the code asks for the other product first.
    have apart : guideMiniHeight * sourceWidth < guideMiniWidth * sourceHeight ∧
        0 < sourceHeight →
        ¬ (guideMiniWidth * sourceHeight < guideMiniHeight * sourceWidth ∧ 0 < sourceWidth) :=
      fun high wide => high.1.not_gt wide.1
    rw [ite_ite_comm _ _ _ _ apart, ite_ite_comm _ _ _ _ apart]
    exact compared_outcome sides (by omega)
  rw [if_neg around, if_neg around]
  have signs := sides.signs
  have widthNonneg := sides.width_nonneg
  have heightNonneg := sides.height_nonneg
  unfold SameSign at signs
  exact kept_outcome sides (fun _ => by omega) (fun less => by omega) fun less => by omega

/-! The margins. -/

theorem marginChecked_eq {guide new : Int} (within : WithinGuide guide new) :
    marginChecked guide new =
      if guide - new < 2147483647 then some (roundedQuotient (guide - new).natAbs 2)
      else none := by
  obtain ⟨le, near, -⟩ := within
  have size : |guide - new| = guide - new := abs_of_nonneg (by omega)
  have natSize : ((guide - new).natAbs : Int) = guide - new := by omega
  simp only [marginChecked, Option.bind_eq_bind]
  rw [sub, CheckedInt.exact_of_inRange ⟨by omega, near⟩, Option.bind_some, CheckedInt.abs, size,
    CheckedInt.exact_of_inRange ⟨by omega, near⟩, Option.bind_some,
    roundedQuotientChecked_eq (by decide) (by decide), size, natSize]
  congr 1
  simp only [eq_iff_iff]
  omega

theorem add_margin {guide new : Int} (guideFits : InRange guide) (within : WithinGuide guide new) :
    add (roundedQuotient (guide - new).natAbs 2) new =
      some (roundedQuotient (guide - new).natAbs 2 + new) := by
  obtain ⟨le, -, lower, -⟩ := within
  obtain ⟨-, upper⟩ := guideFits
  rw [add, roundedQuotient_of_nonneg (by omega) (by decide)]
  exact CheckedInt.exact_of_inRange ⟨by omega, by omega⟩

theorem centredChecked_eq {cw ch : Int} (guideWidth : InRange guideMiniWidth)
    (guideHeight : InRange guideMiniHeight) (width : WithinGuide guideMiniWidth cw)
    (height : WithinGuide guideMiniHeight ch) :
    centredChecked guideMiniWidth guideMiniHeight cw ch =
      if guideMiniWidth - cw < 2147483647 ∧ guideMiniHeight - ch < 2147483647 then
        some (centred guideMiniWidth guideMiniHeight cw ch)
      else none := by
  rw [centredChecked, marginChecked_eq width, marginChecked_eq height]
  by_cases nearWidth : guideMiniWidth - cw < 2147483647
  · by_cases nearHeight : guideMiniHeight - ch < 2147483647
    · rw [if_pos nearWidth, if_pos nearHeight, if_pos ⟨nearWidth, nearHeight⟩]
      simp only [Option.bind_eq_bind, Option.bind_some, add_margin guideWidth width,
        add_margin guideHeight height, Option.pure_def, centred]
    · rw [if_pos nearWidth, if_neg nearHeight, if_neg (not_and_of_not_right _ nearHeight)]
      rfl
  · rw [if_neg nearWidth, if_neg (not_and_of_not_left _ nearWidth)]
    rfl

/-! The whole of `FixRatio`. -/

/-- The sides of a screen at most. -/
structure ShowsScreen (view : MiniView) (desktop : Desktop) : Prop where
  width_nonneg : 0 ≤ view.shownWidth desktop
  width_le : view.shownWidth desktop ≤ 32767
  height_nonneg : 0 ≤ view.shownHeight desktop
  height_le : view.shownHeight desktop ≤ 32767

/-- The guide is not looked at unless the source or the clip has a new size. -/
def GuideFits (view : MiniView) (desktop : Desktop) : Prop :=
  view.settingWindow = false →
    view.shownWidth desktop ≠ view.lastCliWidthFixedTo ∨
      view.shownHeight desktop ≠ view.lastCliHeightFixedTo →
    RegionFits view.lastUserSetCliWidth view.lastUserSetCliHeight (view.shownWidth desktop)
      (view.shownHeight desktop)

theorem ShowsScreen.exact_width {view : MiniView} {desktop : Desktop}
    (shows : view.ShowsScreen desktop) :
    exact (view.shownWidth desktop) = some (view.shownWidth desktop) := by
  obtain ⟨nonneg, le, -, -⟩ := shows
  exact CheckedInt.exact_of_inRange ⟨by omega, by omega⟩

theorem ShowsScreen.exact_height {view : MiniView} {desktop : Desktop}
    (shows : view.ShowsScreen desktop) :
    exact (view.shownHeight desktop) = some (view.shownHeight desktop) := by
  obtain ⟨-, -, nonneg, le⟩ := shows
  exact CheckedInt.exact_of_inRange ⟨by omega, by omega⟩

theorem fixRatioChecked_iff {view : MiniView} {desktop : Desktop} (locked : view.lockRatio = true)
    (shows : view.ShowsScreen desktop)
    (signs : SameSign view.lastUserSetCliWidth view.lastUserSetCliHeight)
    (guideWidth : InRange view.lastUserSetCliWidth)
    (guideHeight : InRange view.lastUserSetCliHeight) :
    view.fixRatioChecked desktop = some (view.fixRatio desktop) ↔ view.GuideFits desktop := by
  unfold fixRatioChecked fixRatio GuideFits
  cases setting : view.settingWindow with
  | true => simp
  | false =>
      simp only [locked, Bool.not_false, Bool.and_true, if_true, shows.exact_width,
        shows.exact_height, Option.bind_eq_bind, Option.bind_some, true_imp_iff, Option.pure_def]
      by_cases changed : view.shownWidth desktop ≠ view.lastCliWidthFixedTo ∨
          view.shownHeight desktop ≠ view.lastCliHeightFixedTo
      · rw [if_pos changed, if_pos changed]
        have outcome := fittedSizeChecked_outcome
          (⟨signs, guideWidth, guideHeight, shows.width_nonneg, shows.width_le,
            shows.height_nonneg, shows.height_le⟩ : Sides _ _ _ _)
        generalize fittedSize _ _ _ _ = size at outcome ⊢
        generalize fittedSizeChecked _ _ _ _ = checked at outcome ⊢
        cases outcome with
        | fails outside => exact iff_of_false (by simp) fun region => outside (region changed)
        | fits width height margins =>
            rw [Option.bind_some]
            by_cases differs : size.1 ≠ view.lastUserSetCliWidth ∨
                size.2 ≠ view.lastUserSetCliHeight
            · rw [if_pos differs, if_pos differs,
                centredChecked_eq guideWidth guideHeight width height]
              by_cases near : view.lastUserSetCliWidth - size.1 < 2147483647 ∧
                  view.lastUserSetCliHeight - size.2 < 2147483647
              · rw [if_pos near]
                exact iff_of_true rfl fun _ => margins.mp near
              · rw [if_neg near]
                refine iff_of_false ?_ fun region => near (margins.mpr (region changed))
                intro computed
                cases computed
            · rw [if_neg differs, if_neg differs]
              refine iff_of_true rfl fun _ => margins.mp ?_
              omega
      · rw [if_neg changed, if_neg changed]
        exact iff_of_true rfl fun now => absurd now changed

end MiniView

end LeanMiniViews
