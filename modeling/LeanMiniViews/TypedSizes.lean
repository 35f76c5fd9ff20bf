import LeanMiniViews.CheckedRatio

/-!
The sizes that follow from a number typed in the Views tab. `AdjustCliWidth` and `AdjustCliHeight`
take every number there is, where the edges of the clip are kept inside the source.
-/

namespace LeanMiniViews.MiniView

open CheckedInt (InRange add)

/-! The number that is typed. -/

/-- `typed` as one side of the view, for a source with the sides `own` and `other` and a frame of
`border` and `otherBorder` around the view. -/
structure TypedFits (typed own other border otherBorder : Int) : Prop where
  product : InRange (typed * other)
  rounding : 0 < own → |typed * other| + own / 2 ≤ 2147483647
  typedSide : InRange (typed + border)
  otherSide : 0 < own →
    (2 * (-2147483648 - otherBorder) - 1) * own < 2 * (typed * other) ∧
      2 * (typed * other) < (2 * (2147483647 - otherBorder) + 1) * own

theorem typed_iff {typed own other border otherBorder : Int} (ownNonneg : 0 ≤ own)
    (ownLe : own ≤ 32767) (borderFits : InRange otherBorder) :
    (scaledChecked typed other own = some (roundedQuotient (typed * other) own) ∧
      InRange (typed + border) ∧
      InRange (roundedQuotient (typed * other) own + otherBorder)) ↔
      TypedFits typed own other border otherBorder := by
  have otherSide : InRange (roundedQuotient (typed * other) own + otherBorder) ↔
      (0 < own → (2 * (-2147483648 - otherBorder) - 1) * own < 2 * (typed * other) ∧
        2 * (typed * other) < (2 * (2147483647 - otherBorder) + 1) * own) := by
    rcases ownNonneg.eq_or_lt with zero | positive
    · subst zero
      simpa [roundedQuotient] using borderFits
    · rw [inRange_add_iff positive borderFits]
      simp only [positive, true_imp_iff]
  rw [scaledChecked_eq typed other ownNonneg ownLe, otherSide]
  constructor
  · rintro ⟨scaled, typedSide, sum⟩
    split at scaled
    · rename_i fits
      exact ⟨fits.1, fits.2, typedSide, sum⟩
    · cases scaled
  · rintro ⟨product, rounding, typedSide, sum⟩
    exact ⟨if_pos ⟨product, rounding⟩, typedSide, sum⟩

theorem setCliSizeChecked_eq (view : MiniView) (newCliWidth newCliHeight : Int) :
    view.setCliSizeChecked newCliWidth newCliHeight =
      if InRange (newCliWidth + view.getBorderSize.1) ∧
          InRange (newCliHeight + view.getBorderSize.2) then
        some (view.setCliSize newCliWidth newCliHeight)
      else none := by
  simp only [setCliSizeChecked, add, Option.bind_eq_bind, CheckedInt.exact_bind_exact]
  rfl

theorem scaledChecked_bind_iff {α : Type} {size other divisor : Int} (nonneg : 0 ≤ divisor)
    (bounded : divisor ≤ 32767) (fits : Int → Prop) [DecidablePred fits] (following : Int → α) :
    ((scaledChecked size other divisor).bind fun quotient =>
        if fits quotient then some (following quotient) else none) =
        some (following (roundedQuotient (size * other) divisor)) ↔
      scaledChecked size other divisor = some (roundedQuotient (size * other) divisor) ∧
        fits (roundedQuotient (size * other) divisor) := by
  rw [scaledChecked_eq size other nonneg bounded]
  split
  · rw [Option.bind_some]
    split
    · rename_i holds
      exact iff_of_true rfl ⟨rfl, holds⟩
    · rename_i fails
      exact iff_of_false (by simp) fun both => fails both.2
  · exact iff_of_false (by simp) (by simp)

theorem adjustCliWidthChecked_iff {view : MiniView} {desktop : Desktop} {newCliWidth : Int}
    (locked : view.lockRatio = true) (shows : view.ShowsScreen desktop)
    (borderFits : InRange view.getBorderSize.2) :
    view.adjustCliWidthChecked desktop newCliWidth =
        some (view.adjustCliWidth desktop newCliWidth) ↔
      TypedFits newCliWidth (view.shownWidth desktop) (view.shownHeight desktop)
        view.getBorderSize.1 view.getBorderSize.2 := by
  rw [← typed_iff shows.width_nonneg shows.width_le borderFits, adjustCliWidthChecked,
    adjustCliWidth, if_pos locked, if_pos locked]
  simp only [shows.exact_width, shows.exact_height, Option.bind_eq_bind, Option.bind_some,
    setCliSizeChecked_eq]
  exact scaledChecked_bind_iff shows.width_nonneg shows.width_le
    (fun newCliHeight => InRange (newCliWidth + view.getBorderSize.1) ∧
      InRange (newCliHeight + view.getBorderSize.2)) _

theorem adjustCliHeightChecked_iff {view : MiniView} {desktop : Desktop} {newCliHeight : Int}
    (locked : view.lockRatio = true) (shows : view.ShowsScreen desktop)
    (borderFits : InRange view.getBorderSize.1) :
    view.adjustCliHeightChecked desktop newCliHeight =
        some (view.adjustCliHeight desktop newCliHeight) ↔
      TypedFits newCliHeight (view.shownHeight desktop) (view.shownWidth desktop)
        view.getBorderSize.2 view.getBorderSize.1 := by
  rw [← typed_iff shows.height_nonneg shows.height_le borderFits, adjustCliHeightChecked,
    adjustCliHeight, if_pos locked, if_pos locked]
  simp only [shows.exact_width, shows.exact_height, Option.bind_eq_bind, Option.bind_some,
    setCliSizeChecked_eq]
  refine (scaledChecked_bind_iff shows.height_nonneg shows.height_le
    (fun newCliWidth => InRange (newCliWidth + view.getBorderSize.1) ∧
      InRange (newCliHeight + view.getBorderSize.2)) _).trans ?_
  exact and_congr_right fun _ => and_comm

/-! What is typed, and what `FixRatio` makes of it later. -/

theorem roundedQuotient_sameSign {typed other own : Int} (otherNonneg : 0 ≤ other)
    (ownNonneg : 0 ≤ own) : SameSign typed (roundedQuotient (typed * other) own) := by
  rcases ownNonneg.eq_or_lt with zero | positive
  · subst zero
    have nothing : roundedQuotient (typed * other) 0 = 0 := rfl
    unfold SameSign
    omega
  rcases Int.le_total 0 typed with above | below
  · exact Or.inl ⟨above, roundedQuotient_nonneg (Int.mul_nonneg above otherNonneg) positive⟩
  · have product := Int.mul_nonpos_of_nonpos_of_nonneg below otherNonneg
    have opposite := roundedQuotient_nonneg (show 0 ≤ -(typed * other) by omega) positive
    rw [roundedQuotient_neg _ positive] at opposite
    exact Or.inr ⟨below, by omega⟩

theorem roundedQuotient_inRange {dividend divisor : Int} (nonneg : 0 ≤ divisor)
    (fits : InRange dividend) : InRange (roundedQuotient dividend divisor) := by
  rcases nonneg.eq_or_lt with zero | positive
  · subst zero
    have nothing : roundedQuotient dividend 0 = 0 := rfl
    rw [nothing]
    decide
  · obtain ⟨lower, upper⟩ := fits
    exact ⟨(le_roundedQuotient_iff positive (by decide)).mpr (by omega),
      (roundedQuotient_le_iff positive (by decide)).mpr (by omega)⟩

/-- The guide of the one view is that of the other. -/
structure SameGuide (view other : MiniView) : Prop where
  width : other.lastUserSetCliWidth = view.lastUserSetCliWidth
  height : other.lastUserSetCliHeight = view.lastUserSetCliHeight

theorem adjustCliWidth_guide {view : MiniView} {desktop : Desktop} {newCliWidth : Int}
    (locked : view.lockRatio = true) :
    (view.adjustCliWidth desktop newCliWidth).lastUserSetCliWidth = newCliWidth ∧
      (view.adjustCliWidth desktop newCliWidth).lastUserSetCliHeight =
        roundedQuotient (newCliWidth * view.shownHeight desktop) (view.shownWidth desktop) := by
  simp [adjustCliWidth, locked, setCliSize]

theorem adjustCliHeight_guide {view : MiniView} {desktop : Desktop} {newCliHeight : Int}
    (locked : view.lockRatio = true) :
    (view.adjustCliHeight desktop newCliHeight).lastUserSetCliHeight = newCliHeight ∧
      (view.adjustCliHeight desktop newCliHeight).lastUserSetCliWidth =
        roundedQuotient (newCliHeight * view.shownWidth desktop) (view.shownHeight desktop) := by
  simp [adjustCliHeight, locked, setCliSize]

/-- Of every number that is typed, for every source or clip and every later one: with what the
edit field and its handlers leave open, 32 bits are enough exactly under these conditions. -/
theorem adjustCli_computes_iff {view next : MiniView} {desktop later : Desktop} {typed : Int}
    (locked : view.lockRatio = true) (nextLocked : next.lockRatio = true)
    (typedFits : InRange typed)
    (borderFits : InRange view.getBorderSize.1 ∧ InRange view.getBorderSize.2)
    (shows : view.ShowsScreen desktop) (nextShows : next.ShowsScreen later) :
    (SameGuide (view.adjustCliWidth desktop typed) next →
      (view.adjustCliWidthChecked desktop typed = some (view.adjustCliWidth desktop typed) ∧
          next.fixRatioChecked later = some (next.fixRatio later) ↔
        TypedFits typed (view.shownWidth desktop) (view.shownHeight desktop)
            view.getBorderSize.1 view.getBorderSize.2 ∧
          next.GuideFits later)) ∧
      (SameGuide (view.adjustCliHeight desktop typed) next →
        (view.adjustCliHeightChecked desktop typed = some (view.adjustCliHeight desktop typed) ∧
            next.fixRatioChecked later = some (next.fixRatio later) ↔
          TypedFits typed (view.shownHeight desktop) (view.shownWidth desktop)
              view.getBorderSize.2 view.getBorderSize.1 ∧
            next.GuideFits later)) := by
  constructor
  · rintro ⟨width, height⟩
    obtain ⟨guideWidth, guideHeight⟩ := @adjustCliWidth_guide view desktop typed locked
    rw [adjustCliWidthChecked_iff locked shows borderFits.2]
    refine and_congr_right fun fits => ?_
    apply fixRatioChecked_iff nextLocked nextShows
    · rw [width, height, guideWidth, guideHeight]
      exact roundedQuotient_sameSign shows.height_nonneg shows.width_nonneg
    · rwa [width, guideWidth]
    · rw [height, guideHeight]
      exact roundedQuotient_inRange shows.width_nonneg fits.product
  · rintro ⟨width, height⟩
    obtain ⟨guideHeight, guideWidth⟩ := @adjustCliHeight_guide view desktop typed locked
    rw [adjustCliHeightChecked_iff locked shows borderFits.1]
    refine and_congr_right fun fits => ?_
    apply fixRatioChecked_iff nextLocked nextShows
    · rw [width, height, guideWidth, guideHeight]
      exact (roundedQuotient_sameSign shows.width_nonneg shows.height_nonneg).imp And.symm And.symm
    · rw [width, guideWidth]
      exact roundedQuotient_inRange shows.height_nonneg fits.product
    · rwa [height, guideHeight]

def fullDesktop : Desktop := ⟨some ⟨0, 0, 1920, 1080⟩, false, ⟨none, ⟨1920, 1080⟩⟩, 0, 0⟩

def droppedView : MiniView :=
  ((init lockedUser).createThis 1 0 fullDesktop 100 50 Frame.none).drop lockedUser fullDesktop
    ⟨2, false, true⟩

/-- Half the size of the source, which is later a square. -/
theorem adjustCli_computes_half :
    TypedFits 960 1920 1080 0 0 ∧
      (droppedView.adjustCliWidth fullDesktop 960).GuideFits squareDesktop :=
  ((@adjustCli_computes_iff droppedView (droppedView.adjustCliWidth fullDesktop 960) fullDesktop
    squareDesktop 960 rfl rfl (by decide) (by decide) ⟨by decide, by decide, by decide, by decide⟩
    ⟨by decide, by decide, by decide, by decide⟩).1 ⟨rfl, rfl⟩).mp ⟨by decide, by decide⟩

/-- Two thousand million as the width, for a source of a full screen. -/
theorem adjustCli_overflows :
    ¬ ∀ (view next : MiniView) (desktop later : Desktop) (typed : Int),
      view.lockRatio = true → next.lockRatio = true → InRange typed →
      InRange view.getBorderSize.1 ∧ InRange view.getBorderSize.2 →
      view.ShowsScreen desktop → next.ShowsScreen later →
      SameGuide (view.adjustCliWidth desktop typed) next →
      view.adjustCliWidthChecked desktop typed = some (view.adjustCliWidth desktop typed) ∧
        next.fixRatioChecked later = some (next.fixRatio later) := by
  intro claim
  have computed := claim droppedView (droppedView.adjustCliWidth fullDesktop 2000000000)
    fullDesktop fullDesktop 2000000000 rfl rfl (by decide) (by decide)
    ⟨by decide, by decide, by decide, by decide⟩ ⟨by decide, by decide, by decide, by decide⟩
    ⟨rfl, rfl⟩
  exact absurd computed.1 (by decide)

end LeanMiniViews.MiniView
