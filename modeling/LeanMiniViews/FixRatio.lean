import LeanMiniViews.MiniViewFrames
import LeanMiniViews.Runs

/-!
The area `FixRatio` leaves for painting, and the cache that lets it skip the work. The key of
the cache is the size of the region it was computed for; the client size it was computed in is
not part of the key.
-/

namespace LeanMiniViews.MiniView

/-! One computation. -/

/-- An area inside a client area, with the ratio of a source region up to rounding. -/
structure Fits (area : Rect) (cliWidth cliHeight sourceWidth sourceHeight : Int) : Prop where
  left_nonneg : 0 ≤ area.left
  top_nonneg : 0 ≤ area.top
  left_right : area.left ≤ area.right
  top_bottom : area.top ≤ area.bottom
  right_bound : area.right ≤ cliWidth
  bottom_bound : area.bottom ≤ cliHeight
  ratio : area.width = roundedQuotient (area.height * sourceWidth) sourceHeight ∨
    area.height = roundedQuotient (area.width * sourceHeight) sourceWidth

instance (area : Rect) (cliWidth cliHeight sourceWidth sourceHeight : Int) :
    Decidable (Fits area cliWidth cliHeight sourceWidth sourceHeight) :=
  decidable_of_iff
    (0 ≤ area.left ∧ 0 ≤ area.top ∧ area.left ≤ area.right ∧ area.top ≤ area.bottom ∧
      area.right ≤ cliWidth ∧ area.bottom ≤ cliHeight ∧
      (area.width = roundedQuotient (area.height * sourceWidth) sourceHeight ∨
        area.height = roundedQuotient (area.width * sourceHeight) sourceWidth))
    ⟨fun ⟨left, top, wide, high, right, bottom, ratio⟩ =>
      ⟨left, top, wide, high, right, bottom, ratio⟩,
    fun fits => ⟨fits.1, fits.2, fits.3, fits.4, fits.5, fits.6, fits.7⟩⟩

def wholeClient (cliWidth cliHeight : Int) : Rect := ⟨0, 0, cliWidth, cliHeight⟩

theorem wholeClient_fits {cliWidth cliHeight sourceWidth sourceHeight : Int}
    (wide : 0 ≤ cliWidth) (high : 0 ≤ cliHeight)
    (ratio : cliWidth = roundedQuotient (cliHeight * sourceWidth) sourceHeight ∨
      cliHeight = roundedQuotient (cliWidth * sourceHeight) sourceWidth) :
    Fits (wholeClient cliWidth cliHeight) cliWidth cliHeight sourceWidth sourceHeight := by
  refine ⟨Int.le_refl _, Int.le_refl _, wide, high, Int.le_refl _, Int.le_refl _, ?_⟩
  simpa [wholeClient, Rect.width, Rect.height] using ratio

theorem sameSize_fits {sourceWidth sourceHeight : Int} (wide : 0 < sourceWidth)
    (high : 0 < sourceHeight) :
    Fits (wholeClient sourceWidth sourceHeight) sourceWidth sourceHeight sourceWidth
      sourceHeight := by
  refine wholeClient_fits wide.le high.le (Or.inl ?_)
  rw [Int.mul_comm, roundedQuotient_mul wide.le high]

/-- A size that keeps one side of the client area and scales the other to the source, with the
scaled side no longer than the client area's. -/
def Scaled (size : Int × Int) (cliWidth cliHeight sourceWidth sourceHeight : Int) : Prop :=
  (size = (cliWidth, roundedQuotient (cliWidth * sourceHeight) sourceWidth) ∧
      cliWidth * sourceHeight ≤ cliHeight * sourceWidth) ∨
    (size = (roundedQuotient (cliHeight * sourceWidth) sourceHeight, cliHeight) ∧
      cliHeight * sourceWidth ≤ cliWidth * sourceHeight)

theorem scaled_of_eq {cliWidth cliHeight sourceWidth sourceHeight : Int}
    (wide : 0 < cliWidth) (high : 0 < sourceHeight)
    (same : cliWidth * sourceHeight = cliHeight * sourceWidth) :
    Scaled (cliWidth, cliHeight) cliWidth cliHeight sourceWidth sourceHeight := by
  refine Or.inr ⟨?_, same.ge⟩
  rw [← same, roundedQuotient_mul wide.le high]

theorem fittedSize_scaled {cliWidth cliHeight sourceWidth sourceHeight : Int}
    (cliWide : 0 < cliWidth) (cliHigh : 0 < cliHeight)
    (wide : 0 < sourceWidth) (high : 0 < sourceHeight) :
    Scaled (fittedSize cliWidth cliHeight sourceWidth sourceHeight) cliWidth cliHeight
      sourceWidth sourceHeight := by
  have swap : sourceWidth * cliHeight = cliHeight * sourceWidth := Int.mul_comm _ _
  have swap' : sourceHeight * cliWidth = cliWidth * sourceHeight := Int.mul_comm _ _
  unfold fittedSize
  split
  · split
    · rename_i wider
      exact Or.inl ⟨rfl, by omega⟩
    · split
      · rename_i higher
        exact Or.inr ⟨rfl, by omega⟩
      · exact scaled_of_eq cliWide high (by omega)
  · split
    · rename_i wider
      refine Or.inl ⟨rfl, ?_⟩
      calc cliWidth * sourceHeight
          ≤ cliWidth * cliHeight := Int.mul_le_mul_of_nonneg_left wider.2.1 cliWide.le
        _ ≤ sourceWidth * cliHeight := Int.mul_le_mul_of_nonneg_right wider.1.le cliHigh.le
        _ = cliHeight * sourceWidth := swap
    · split
      · rename_i higher
        refine Or.inr ⟨rfl, ?_⟩
        calc cliHeight * sourceWidth
            ≤ cliHeight * cliWidth := Int.mul_le_mul_of_nonneg_left higher.1 cliHigh.le
          _ ≤ sourceHeight * cliWidth := Int.mul_le_mul_of_nonneg_right higher.2.1.le cliWide.le
          _ = cliWidth * sourceHeight := swap'
      · split
        · split
          · rename_i higher
            exact Or.inr ⟨rfl, by omega⟩
          · split
            · rename_i wider
              exact Or.inl ⟨rfl, by omega⟩
            · exact scaled_of_eq cliWide high (by omega)
        · omega

theorem Scaled.bounds {size : Int × Int} {cliWidth cliHeight sourceWidth sourceHeight : Int}
    (scaled : Scaled size cliWidth cliHeight sourceWidth sourceHeight)
    (cliWide : 0 < cliWidth) (cliHigh : 0 < cliHeight)
    (wide : 0 < sourceWidth) (high : 0 < sourceHeight) :
    (0 ≤ size.1 ∧ size.1 ≤ cliWidth) ∧ (0 ≤ size.2 ∧ size.2 ≤ cliHeight) := by
  rcases scaled with ⟨rfl, smaller⟩ | ⟨rfl, smaller⟩
  · have nonneg : 0 ≤ cliWidth * sourceHeight := Int.mul_nonneg cliWide.le high.le
    have bound := roundedQuotient_le nonneg smaller cliHigh.le wide
    exact ⟨⟨cliWide.le, Int.le_refl _⟩, roundedQuotient_nonneg nonneg wide, bound⟩
  · have nonneg : 0 ≤ cliHeight * sourceWidth := Int.mul_nonneg cliHigh.le wide.le
    have bound := roundedQuotient_le nonneg smaller cliWide.le high
    exact ⟨⟨roundedQuotient_nonneg nonneg high, bound⟩, cliHigh.le, Int.le_refl _⟩

theorem half_margin {outer inner : Int} (inside : inner ≤ outer) :
    0 ≤ roundedQuotient (outer - inner).natAbs 2 ∧
      roundedQuotient (outer - inner).natAbs 2 + inner ≤ outer := by
  rw [roundedQuotient_of_nonneg (by omega) (by omega)]
  omega

theorem centred_fits {size : Int × Int} {cliWidth cliHeight sourceWidth sourceHeight : Int}
    (scaled : Scaled size cliWidth cliHeight sourceWidth sourceHeight)
    (cliWide : 0 < cliWidth) (cliHigh : 0 < cliHeight)
    (wide : 0 < sourceWidth) (high : 0 < sourceHeight) :
    Fits (centred cliWidth cliHeight size.1 size.2) cliWidth cliHeight sourceWidth
      sourceHeight := by
  obtain ⟨⟨cw_nonneg, cw_bound⟩, ch_nonneg, ch_bound⟩ :=
    scaled.bounds cliWide cliHigh wide high
  have across := half_margin cw_bound
  have down := half_margin ch_bound
  refine ⟨across.1, down.1, ?_, ?_, across.2, down.2, ?_⟩
  · simp only [centred]
    omega
  · simp only [centred]
    omega
  · simp only [centred, Rect.width, Rect.height, add_sub_cancel_left]
    rcases scaled with ⟨rfl, -⟩ | ⟨rfl, -⟩
    · exact Or.inr rfl
    · exact Or.inl rfl

theorem whole_fits {cliWidth cliHeight sourceWidth sourceHeight : Int}
    (scaled : Scaled (cliWidth, cliHeight) cliWidth cliHeight sourceWidth sourceHeight)
    (cliWide : 0 < cliWidth) (cliHigh : 0 < cliHeight) :
    Fits (wholeClient cliWidth cliHeight) cliWidth cliHeight sourceWidth sourceHeight := by
  refine wholeClient_fits cliWide.le cliHigh.le ?_
  rcases scaled with ⟨same, -⟩ | ⟨same, -⟩
  · exact Or.inr (Prod.ext_iff.mp same).2
  · exact Or.inl (Prod.ext_iff.mp same).1

/-! The cache. -/

def cacheEmpty (view : MiniView) : Prop :=
  view.lastCliWidthFixedTo = 0 ∧ view.lastCliHeightFixedTo = 0

instance (view : MiniView) : Decidable view.cacheEmpty := inferInstanceAs (Decidable (_ ∧ _))

/-- What is painted in a client area of this size, with this use of the internal clip, fits it
and has the cached ratio. -/
def StillFits (view : MiniView) (internallyClipped : Bool) (cliWidth cliHeight : Int) : Prop :=
  view.cacheEmpty ∨
    Fits (if internallyClipped then view.rcInternalClip else wholeClient cliWidth cliHeight)
      cliWidth cliHeight view.lastCliWidthFixedTo view.lastCliHeightFixedTo

instance (view : MiniView) (internallyClipped : Bool) (cliWidth cliHeight : Int) :
    Decidable (view.StillFits internallyClipped cliWidth cliHeight) :=
  inferInstanceAs (Decidable (_ ∨ _))

def paintArea (view : MiniView) : Rect :=
  if view.internallyClipped then view.rcInternalClip
  else wholeClient view.lastUserSetCliWidth view.lastUserSetCliHeight

def PaintFits (view : MiniView) (sourceWidth sourceHeight : Int) : Prop :=
  Fits view.paintArea view.lastUserSetCliWidth view.lastUserSetCliHeight sourceWidth sourceHeight

instance (view : MiniView) (sourceWidth sourceHeight : Int) :
    Decidable (view.PaintFits sourceWidth sourceHeight) :=
  inferInstanceAs (Decidable (Fits _ _ _ _ _))

structure CacheFits (view : MiniView) : Prop where
  settled : view.settingWindow = false
  fits : view.cacheEmpty ∨ view.PaintFits view.lastCliWidthFixedTo view.lastCliHeightFixedTo

structure Positive (view : MiniView) (desktop : Desktop) : Prop where
  shownWidth : 0 < view.shownWidth desktop
  shownHeight : 0 < view.shownHeight desktop
  cliWidth : 0 < view.lastUserSetCliWidth
  cliHeight : 0 < view.lastUserSetCliHeight

instance (view : MiniView) (desktop : Desktop) : Decidable (view.Positive desktop) :=
  decidable_of_iff
    (0 < view.shownWidth desktop ∧ 0 < view.shownHeight desktop ∧
      0 < view.lastUserSetCliWidth ∧ 0 < view.lastUserSetCliHeight)
    ⟨fun ⟨wide, high, cliWide, cliHigh⟩ => ⟨wide, high, cliWide, cliHigh⟩,
    fun positive => ⟨positive.1, positive.2, positive.3, positive.4⟩⟩

structure SameFit (view other : MiniView) : Prop where
  settingWindow : other.settingWindow = view.settingWindow
  lockRatio : other.lockRatio = view.lockRatio
  clipped : other.clipped = view.clipped
  rcClip : other.rcClip = view.rcClip
  internallyClipped : other.internallyClipped = view.internallyClipped
  rcInternalClip : other.rcInternalClip = view.rcInternalClip
  lastUserSetCliWidth : other.lastUserSetCliWidth = view.lastUserSetCliWidth
  lastUserSetCliHeight : other.lastUserSetCliHeight = view.lastUserSetCliHeight
  lastCliWidthFixedTo : other.lastCliWidthFixedTo = view.lastCliWidthFixedTo
  lastCliHeightFixedTo : other.lastCliHeightFixedTo = view.lastCliHeightFixedTo

namespace SameFit

variable {view other : MiniView}

theorem shownWidth (same : SameFit view other) (desktop : Desktop) :
    other.shownWidth desktop = view.shownWidth desktop :=
  shownWidth_congr same.clipped same.rcClip desktop

theorem shownHeight (same : SameFit view other) (desktop : Desktop) :
    other.shownHeight desktop = view.shownHeight desktop :=
  shownHeight_congr same.clipped same.rcClip desktop

theorem paintFits (same : SameFit view other) (sourceWidth sourceHeight : Int) :
    other.PaintFits sourceWidth sourceHeight ↔ view.PaintFits sourceWidth sourceHeight := by
  simp only [PaintFits, paintArea, same.internallyClipped, same.rcInternalClip,
    same.lastUserSetCliWidth, same.lastUserSetCliHeight]

theorem cacheFits (same : SameFit view other) : other.CacheFits ↔ view.CacheFits := by
  constructor
  all_goals
    rintro ⟨settled, fits⟩
    refine ⟨?_, ?_⟩
    · simpa only [same.settingWindow] using settled
    · simpa only [cacheEmpty, same.lastCliWidthFixedTo, same.lastCliHeightFixedTo,
        same.paintFits] using fits

theorem positive (same : SameFit view other) (desktop : Desktop) :
    other.Positive desktop ↔ view.Positive desktop := by
  constructor
  all_goals
    rintro ⟨wide, high, cliWide, cliHigh⟩
    refine ⟨?_, ?_, ?_, ?_⟩
    · simpa only [same.shownWidth] using wide
    · simpa only [same.shownHeight] using high
    · simpa only [same.lastUserSetCliWidth] using cliWide
    · simpa only [same.lastUserSetCliHeight] using cliHigh

end SameFit

def CacheHitFits (view : MiniView) (desktop : Desktop) : Prop :=
  view.lastCliWidthFixedTo = view.shownWidth desktop →
    view.lastCliHeightFixedTo = view.shownHeight desktop →
      view.PaintFits (view.shownWidth desktop) (view.shownHeight desktop)

theorem CacheFits.hit {view : MiniView} {desktop : Desktop} (kept : view.CacheFits)
    (wide : 0 < view.shownWidth desktop) : view.CacheHitFits desktop := by
  intro sameWidth sameHeight
  rcases kept.fits with empty | fits
  · have := empty.1
    omega
  · rwa [sameWidth, sameHeight] at fits

theorem fixRatio_unlocked {view : MiniView} (unlocked : view.lockRatio = false)
    (desktop : Desktop) : view.fixRatio desktop = view := by
  simp [fixRatio, unlocked]

theorem fixRatio_locked {view : MiniView} {desktop : Desktop}
    (settled : view.settingWindow = false) (locked : view.lockRatio = true)
    (positive : view.Positive desktop) (hit : view.CacheHitFits desktop) :
    (view.fixRatio desktop).PaintFits (view.shownWidth desktop) (view.shownHeight desktop) ∧
      (view.fixRatio desktop).lastCliWidthFixedTo = view.shownWidth desktop ∧
      (view.fixRatio desktop).lastCliHeightFixedTo = view.shownHeight desktop := by
  obtain ⟨wide, high, cliWide, cliHigh⟩ := positive
  have fitted := fittedSize_scaled cliWide cliHigh wide high
  simp only [fixRatio, locked, settled, Bool.not_false, Bool.and_self, if_true]
  split
  · refine ⟨?_, rfl, rfl⟩
    split
    · exact centred_fits fitted cliWide cliHigh wide high
    · rename_i unchanged
      have same : fittedSize view.lastUserSetCliWidth view.lastUserSetCliHeight
          (view.shownWidth desktop) (view.shownHeight desktop) =
            (view.lastUserSetCliWidth, view.lastUserSetCliHeight) := by
        rw [Prod.ext_iff]
        omega
      rw [same] at fitted
      exact whole_fits fitted cliWide cliHigh
  · rename_i cached
    exact ⟨hit (by omega) (by omega), by omega, by omega⟩

def Fixed (view : MiniView) (desktop : Desktop) : Prop :=
  view.lockRatio = true → view.PaintFits (view.shownWidth desktop) (view.shownHeight desktop)

instance (view : MiniView) (desktop : Desktop) : Decidable (view.Fixed desktop) :=
  inferInstanceAs (Decidable (_ → _))

theorem SameFit.fixed {view other : MiniView} (same : SameFit view other) (desktop : Desktop) :
    other.Fixed desktop ↔ view.Fixed desktop := by
  simp only [Fixed, same.lockRatio, same.shownWidth, same.shownHeight, same.paintFits]

theorem fixRatio_fixed {view : MiniView} {desktop : Desktop}
    (settled : view.settingWindow = false) (positive : view.Positive desktop)
    (hit : view.lockRatio = true → view.CacheHitFits desktop)
    (kept : view.lockRatio = false → view.CacheFits) :
    (view.fixRatio desktop).Fixed desktop ∧ (view.fixRatio desktop).CacheFits := by
  cases locked : view.lockRatio with
  | true =>
      obtain ⟨fits, width, height⟩ := fixRatio_locked settled locked positive (hit locked)
      have shown : (view.fixRatio desktop).shownWidth desktop = view.shownWidth desktop ∧
          (view.fixRatio desktop).shownHeight desktop = view.shownHeight desktop := by
        rw [fixRatio_eq]
        exact ⟨rfl, rfl⟩
      constructor
      · intro _
        rw [shown.1, shown.2]
        exact fits
      · refine ⟨?_, Or.inr ?_⟩
        · rw [fixRatio_eq]
          exact settled
        · rw [width, height]
          exact fits
  | false =>
      rw [fixRatio_unlocked locked]
      exact ⟨fun on => absurd on (by simp [locked]), kept locked⟩

theorem fixRatio_positive (view : MiniView) (desktop : Desktop) :
    (view.fixRatio desktop).Positive desktop ↔ view.Positive desktop := by
  rw [fixRatio_eq]
  exact ⟨fun ⟨wide, high, cliWide, cliHigh⟩ => ⟨wide, high, cliWide, cliHigh⟩,
    fun ⟨wide, high, cliWide, cliHigh⟩ => ⟨wide, high, cliWide, cliHigh⟩⟩

/-! The operations. -/

def callsFixRatio (view : MiniView) (call : Call) : Bool :=
  match call.op with
  | .setClip isClipped _ => isClipped
  | .clearClipRegion => true
  | .toggleLockRatio => true
  | .validateProperties => call.desktop.source.isSome &&
      (view.sourceSize.cx != call.desktop.sourceWidth ||
        view.sourceSize.cy != call.desktop.sourceHeight)
  | _ => false

/-- An operation that resizes the client area without `ClearFixRatioCache` meets an empty cache,
or gives a size that what is painted still fits. -/
def KeepsCache (view : MiniView) (call : Call) : Prop :=
  match call.op with
  | .adjustCliWidth newCliWidth =>
      if view.lockRatio then
        view.internallyClipped = true →
          Fits view.rcInternalClip newCliWidth
            (roundedQuotient (newCliWidth * view.shownHeight call.desktop)
              (view.shownWidth call.desktop))
            (view.shownWidth call.desktop) (view.shownHeight call.desktop)
      else view.StillFits view.internallyClipped newCliWidth view.window.cliHeight
  | .adjustCliHeight newCliHeight =>
      if view.lockRatio then
        view.internallyClipped = true →
          Fits view.rcInternalClip
            (roundedQuotient (newCliHeight * view.shownWidth call.desktop)
              (view.shownHeight call.desktop))
            newCliHeight (view.shownWidth call.desktop) (view.shownHeight call.desktop)
      else view.StillFits view.internallyClipped view.window.cliWidth newCliHeight
  | .matchSource _ matchSize =>
      matchSize = true →
        view.StillFits false (view.shownWidth call.desktop) (view.shownHeight call.desktop)
  | .setClip isClipped rect =>
      isClipped = true → call.user.defaultMatchSourceSize = true → view.lockRatio = false →
        view.StillFits false rect.width rect.height
  | _ => True

instance (view : MiniView) : ∀ call, Decidable (view.KeepsCache call)
  | ⟨_, _, .adjustCliWidth _⟩ | ⟨_, _, .adjustCliHeight _⟩ | ⟨_, _, .matchSource _ _⟩
  | ⟨_, _, .setClip _ _⟩ => by
      unfold KeepsCache
      infer_instance
  | ⟨_, _, .clearClipRegion⟩ | ⟨_, _, .adjustClipTop _⟩ | ⟨_, _, .adjustClipLeft _⟩
  | ⟨_, _, .adjustClipRight _⟩ | ⟨_, _, .adjustClipBottom _⟩ | ⟨_, _, .adjustWindowLeft _⟩
  | ⟨_, _, .adjustWindowTop _⟩ | ⟨_, _, .setEditMode _⟩ | ⟨_, _, .validateProperties⟩
  | ⟨_, _, .showByParentRequest⟩ | ⟨_, _, .hideByParentRequest⟩
  | ⟨_, _, .toggleHideWhenSourceOnTop⟩ | ⟨_, _, .toggleLockRatio⟩ | ⟨_, _, .doSizing _ _⟩
  | ⟨_, _, .sizeFinished⟩ | ⟨_, _, .frameArrived _⟩ => isTrue trivial

theorem matchSource_unsized (view : MiniView) (desktop : Desktop) (matchPos : Bool) :
    SameFit view (view.matchSource desktop matchPos false) := by
  simp only [matchSource, Bool.false_eq_true, if_false]
  rw [recreateMirror_eq]
  exact ⟨rfl, rfl, rfl, rfl, rfl, rfl, rfl, rfl, rfl, rfl⟩

theorem matchedWindow_cliSize (view : MiniView) (desktop : Desktop) (matchPos : Bool) :
    (view.matchedWindow desktop matchPos true).cliWidth = view.shownWidth desktop ∧
      (view.matchedWindow desktop matchPos true).cliHeight = view.shownHeight desktop := by
  cases matchPos
  all_goals
    simp [matchedWindow, getBorderSize, Window.cliWidth, Window.cliHeight, Window.setPos,
      Window.setSize, Window.frame]

theorem matchSource_sized (view : MiniView) (desktop : Desktop) (matchPos : Bool) :
    SameFit
      { view with
        internallyClipped := false
        lastUserSetCliWidth := view.shownWidth desktop
        lastUserSetCliHeight := view.shownHeight desktop }
      (view.matchSource desktop matchPos true) := by
  obtain ⟨width, height⟩ := view.matchedWindow_cliSize desktop matchPos
  simp only [matchSource, if_true]
  rw [recreateMirror_eq]
  exact ⟨rfl, rfl, rfl, rfl, rfl, rfl, width, height, rfl, rfl⟩

theorem matchSourceByDefault_unsized (view : MiniView) {user : MiniViewUser}
    (unsized : user.defaultMatchSourceSize = false) (desktop : Desktop) :
    SameFit view (view.matchSourceByDefault user desktop) := by
  simp only [matchSourceByDefault, unsized]
  split
  · exact matchSource_unsized view desktop _
  · exact ⟨rfl, rfl, rfl, rfl, rfl, rfl, rfl, rfl, rfl, rfl⟩

theorem matchSourceByDefault_sized (view : MiniView) {user : MiniViewUser}
    (sized : user.defaultMatchSourceSize = true) (desktop : Desktop) :
    SameFit
      { view with
        internallyClipped := false
        lastUserSetCliWidth := view.shownWidth desktop
        lastUserSetCliHeight := view.shownHeight desktop }
      (view.matchSourceByDefault user desktop) := by
  simp only [matchSourceByDefault, sized, Bool.or_true, if_true]
  exact matchSource_sized view desktop _

theorem sized_hit {view : MiniView} {desktop : Desktop} (positive : view.Positive desktop)
    (whole : view.internallyClipped = false)
    (width : view.lastUserSetCliWidth = view.shownWidth desktop)
    (height : view.lastUserSetCliHeight = view.shownHeight desktop) :
    view.CacheHitFits desktop := by
  intro _ _
  simp only [PaintFits, paintArea, whole, width, height]
  exact sameSize_fits positive.shownWidth positive.shownHeight

theorem setClip_fixed {view : MiniView} {user : MiniViewUser} {desktop : Desktop} {rect : Rect}
    (kept : view.CacheFits)
    (keeps : user.defaultMatchSourceSize = true → view.lockRatio = false →
      view.StillFits false rect.width rect.height)
    (positive : (view.setClip user desktop true rect.left rect.top rect.right
      rect.bottom).Positive desktop) :
    (view.setClip user desktop true rect.left rect.top rect.right rect.bottom).Fixed desktop ∧
      (view.setClip user desktop true rect.left rect.top rect.right rect.bottom).CacheFits := by
  let chosen := { view with clipped := true, rcClip := rect }
  let matched := chosen.matchSourceByDefault user desktop
  have forwarded : SameFit (matched.fixRatio desktop)
      (view.setClip user desktop true rect.left rect.top rect.right rect.bottom) := by
    simp only [setClip, if_true]
    split <;> exact ⟨rfl, rfl, rfl, rfl, rfl, rfl, rfl, rfl, rfl, rfl⟩
  have chosenFits : chosen.CacheFits := ⟨kept.settled, kept.fits⟩
  rw [forwarded.positive, fixRatio_positive] at positive
  rw [forwarded.fixed, forwarded.cacheFits]
  cases sized : user.defaultMatchSourceSize with
  | false =>
      have same : SameFit chosen matched :=
        matchSourceByDefault_unsized chosen sized desktop
      have matchedFits : matched.CacheFits := same.cacheFits.mpr chosenFits
      exact fixRatio_fixed matchedFits.settled positive
        (fun _ => matchedFits.hit positive.shownWidth) (fun _ => matchedFits)
  | true =>
      have same := matchSourceByDefault_sized chosen sized desktop
      refine fixRatio_fixed (same.settingWindow.trans kept.settled) positive ?_ ?_
      · intro _
        exact sized_hit positive same.internallyClipped
          (same.lastUserSetCliWidth.trans (same.shownWidth desktop).symm)
          (same.lastUserSetCliHeight.trans (same.shownHeight desktop).symm)
      · intro unlocked
        exact same.cacheFits.mpr ⟨kept.settled, keeps sized (same.lockRatio.symm.trans unlocked)⟩

theorem fixRatio_kept {view : MiniView} {desktop : Desktop} (kept : view.CacheFits)
    (positive : (view.fixRatio desktop).Positive desktop) :
    (view.fixRatio desktop).Fixed desktop ∧ (view.fixRatio desktop).CacheFits := by
  rw [fixRatio_positive] at positive
  exact fixRatio_fixed kept.settled positive (fun _ => kept.hit positive.shownWidth) fun _ => kept

theorem clearClipRegion_fixed {view : MiniView} {desktop : Desktop} (kept : view.CacheFits)
    (positive : (view.clearClipRegion desktop).Positive desktop) :
    (view.clearClipRegion desktop).Fixed desktop ∧ (view.clearClipRegion desktop).CacheFits := by
  simp only [clearClipRegion] at positive ⊢
  refine fixRatio_kept ?_ positive
  split <;> exact ⟨kept.settled, kept.fits⟩

theorem checkHideBySourceOnTop_sameFit (view : MiniView) (isSourceOnTop : Bool) :
    SameFit view (view.checkHideBySourceOnTop isSourceOnTop) := by
  rw [checkHideBySourceOnTop_eq]
  exact ⟨rfl, rfl, rfl, rfl, rfl, rfl, rfl, rfl, rfl, rfl⟩

theorem toggleHideWhenSourceOnTop_cacheFits {view : MiniView} (kept : view.CacheFits)
    (isSourceOnTop : Bool) : (view.toggleHideWhenSourceOnTop isSourceOnTop).CacheFits := by
  simp only [toggleHideWhenSourceOnTop]
  rw [(checkHideBySourceOnTop_sameFit _ _).cacheFits]
  split <;> exact ⟨kept.settled, kept.fits⟩

theorem validateProperties_fixed {view : MiniView} {call : Call} (kept : view.CacheFits)
    (positive : (view.validateProperties call.desktop).Positive call.desktop)
    (op : call.op = .validateProperties) :
    (view.callsFixRatio call = true → (view.validateProperties call.desktop).Fixed call.desktop) ∧
      (view.validateProperties call.desktop).CacheFits := by
  have checked : (view.checkHideBySourceOnTop call.desktop.sourceOnTop).CacheFits :=
    (checkHideBySourceOnTop_sameFit _ _).cacheFits.mpr kept
  simp only [callsFixRatio, op]
  by_cases exists_source : call.desktop.source.isSome = true
  · by_cases resized : view.sourceSize.cx ≠ call.desktop.sourceWidth ∨
        view.sourceSize.cy ≠ call.desktop.sourceHeight
    · let sized := { view.checkHideBySourceOnTop call.desktop.sourceOnTop with
        sourceSize := ⟨call.desktop.sourceWidth, call.desktop.sourceHeight⟩ }
      have sizedFits : sized.CacheFits := ⟨checked.settled, checked.fits⟩
      have told : SameFit (sized.fixRatio call.desktop)
          (view.validateProperties call.desktop) := by
        simp only [validateProperties, exists_source, checkHideBySourceOnTop_sourceSize, resized,
          if_true]
        split <;> exact ⟨rfl, rfl, rfl, rfl, rfl, rfl, rfl, rfl, rfl, rfl⟩
      rw [told.positive] at positive
      rw [told.fixed, told.cacheFits]
      obtain ⟨fixed, fits⟩ := fixRatio_kept sizedFits positive
      exact ⟨fun _ => fixed, fits⟩
    · have same : view.validateProperties call.desktop =
          view.checkHideBySourceOnTop call.desktop.sourceOnTop := by
        simp only [validateProperties, exists_source, checkHideBySourceOnTop_sourceSize, resized,
          if_true, if_false]
      rw [same]
      refine ⟨fun calls => absurd calls ?_, checked⟩
      simpa [exists_source] using resized
  · have same : view.validateProperties call.desktop = view := by
      simp only [validateProperties, exists_source, Bool.false_eq_true, if_false]
    rw [same]
    exact ⟨fun calls => absurd calls (by simp [exists_source]), kept⟩

theorem setCliSize_cacheFits {view : MiniView} {newCliWidth newCliHeight : Int}
    (settled : view.settingWindow = false)
    (fits : view.StillFits view.internallyClipped newCliWidth newCliHeight) :
    (view.setCliSize newCliWidth newCliHeight).CacheFits :=
  ⟨settled, fits⟩

theorem adjustCliWidth_cacheFits {view : MiniView} {call : Call} {newCliWidth : Int}
    (kept : view.CacheFits) (op : call.op = .adjustCliWidth newCliWidth)
    (keeps : view.KeepsCache call)
    (positive : (view.adjustCliWidth call.desktop newCliWidth).Positive call.desktop) :
    (view.adjustCliWidth call.desktop newCliWidth).CacheFits := by
  simp only [KeepsCache, op] at keeps
  simp only [adjustCliWidth] at positive ⊢
  split at keeps
  · rename_i locked
    rw [if_pos locked] at positive ⊢
    refine setCliSize_cacheFits kept.settled (Or.inr ?_)
    cases clipped : view.internallyClipped with
    | true => exact keeps clipped
    | false => exact wholeClient_fits positive.cliWidth.le positive.cliHeight.le (Or.inr rfl)
  · rename_i unlocked
    rw [if_neg unlocked]
    exact setCliSize_cacheFits kept.settled keeps

theorem adjustCliHeight_cacheFits {view : MiniView} {call : Call} {newCliHeight : Int}
    (kept : view.CacheFits) (op : call.op = .adjustCliHeight newCliHeight)
    (keeps : view.KeepsCache call)
    (positive : (view.adjustCliHeight call.desktop newCliHeight).Positive call.desktop) :
    (view.adjustCliHeight call.desktop newCliHeight).CacheFits := by
  simp only [KeepsCache, op] at keeps
  simp only [adjustCliHeight] at positive ⊢
  split at keeps
  · rename_i locked
    rw [if_pos locked] at positive ⊢
    refine setCliSize_cacheFits kept.settled (Or.inr ?_)
    cases clipped : view.internallyClipped with
    | true => exact keeps clipped
    | false => exact wholeClient_fits positive.cliWidth.le positive.cliHeight.le (Or.inl rfl)
  · rename_i unlocked
    rw [if_neg unlocked]
    exact setCliSize_cacheFits kept.settled keeps

theorem lockedSizing_ratio (edge : SizingEdge) (rect : Rect)
    (borderWidth borderHeight sourceWidth sourceHeight : Int) :
    let sized := lockedSizing edge rect borderWidth borderHeight sourceWidth sourceHeight
    let cliWidth := sized.right - sized.left - borderWidth
    let cliHeight := sized.bottom - sized.top - borderHeight
    cliWidth = roundedQuotient (cliHeight * sourceWidth) sourceHeight ∨
      cliHeight = roundedQuotient (cliWidth * sourceHeight) sourceWidth := by
  simp only [lockedSizing]
  split
  · left
    split <;> dsimp only <;> omega
  · right
    split <;> dsimp only <;> omega

theorem sizing_cacheFits {view : MiniView} {desktop : Desktop} {edge : SizingEdge} {rect : Rect}
    (kept : view.CacheFits) (positive : (view.sizing desktop edge rect).Positive desktop) :
    (view.sizing desktop edge rect).CacheFits := by
  cases locked : view.lockRatio with
  | true =>
      refine ⟨?_, Or.inr ?_⟩
      · simp [sizing, doSizing, clearFixRatioCache, kept.settled, locked]
      · have wide := positive.cliWidth
        have high := positive.cliHeight
        simp only [sizing, doSizing, clearFixRatioCache, kept.settled, locked, Bool.not_false,
          Bool.and_self, if_true, PaintFits, paintArea] at wide high ⊢
        exact wholeClient_fits wide.le high.le (lockedSizing_ratio edge rect _ _ _ _)
  | false =>
      refine ⟨?_, Or.inl ?_⟩
      · simp [sizing, doSizing, clearFixRatioCache, kept.settled, locked]
      · simp [sizing, doSizing, clearFixRatioCache, locked, cacheEmpty]

theorem cacheFits_quiet {view next : MiniView} {call : Call}
    (quiet : view.callsFixRatio call = false) (fits : next.CacheFits) :
    (view.callsFixRatio call = true → next.Fixed call.desktop) ∧ next.CacheFits :=
  ⟨fun calls => absurd calls (by simp [quiet]), fits⟩

theorem cacheFits_step {view next : MiniView} {call : Call} (kept : view.CacheFits)
    (keeps : view.KeepsCache call) (stepped : next ∈ view.step call)
    (positive : next.Positive call.desktop) :
    (view.callsFixRatio call = true → next.Fixed call.desktop) ∧ next.CacheFits := by
  obtain ⟨user, desktop, op⟩ := call
  cases op with
  | setClip isClipped rect =>
      cases stepped
      cases isClipped with
      | true =>
          obtain ⟨fixed, fits⟩ := setClip_fixed kept (keeps rfl) positive
          exact ⟨fun _ => fixed, fits⟩
      | false => exact cacheFits_quiet rfl ⟨kept.settled, kept.fits⟩
  | clearClipRegion =>
      cases stepped
      obtain ⟨fixed, fits⟩ := clearClipRegion_fixed kept positive
      exact ⟨fun _ => fixed, fits⟩
  | adjustClipTop newTop =>
      cases stepped
      exact cacheFits_quiet rfl ⟨kept.settled, Or.inl ⟨rfl, rfl⟩⟩
  | adjustClipLeft newLeft =>
      cases stepped
      exact cacheFits_quiet rfl ⟨kept.settled, Or.inl ⟨rfl, rfl⟩⟩
  | adjustClipRight newRight =>
      cases stepped
      exact cacheFits_quiet rfl ⟨kept.settled, Or.inl ⟨rfl, rfl⟩⟩
  | adjustClipBottom newBottom =>
      cases stepped
      exact cacheFits_quiet rfl ⟨kept.settled, Or.inl ⟨rfl, rfl⟩⟩
  | adjustWindowLeft newLeft =>
      cases stepped
      exact cacheFits_quiet rfl ⟨kept.settled, kept.fits⟩
  | adjustWindowTop newTop =>
      cases stepped
      exact cacheFits_quiet rfl ⟨kept.settled, kept.fits⟩
  | adjustCliWidth newCliWidth =>
      cases stepped
      exact cacheFits_quiet rfl (adjustCliWidth_cacheFits kept rfl keeps positive)
  | adjustCliHeight newCliHeight =>
      cases stepped
      exact cacheFits_quiet rfl (adjustCliHeight_cacheFits kept rfl keeps positive)
  | setEditMode newStatus =>
      cases stepped
      exact cacheFits_quiet rfl ⟨kept.settled, kept.fits⟩
  | validateProperties =>
      cases stepped
      exact validateProperties_fixed kept positive rfl
  | showByParentRequest =>
      cases stepped
      exact cacheFits_quiet rfl ⟨kept.settled, kept.fits⟩
  | hideByParentRequest =>
      cases stepped
      exact cacheFits_quiet rfl ⟨kept.settled, kept.fits⟩
  | toggleHideWhenSourceOnTop =>
      cases stepped
      exact cacheFits_quiet rfl (toggleHideWhenSourceOnTop_cacheFits kept _)
  | toggleLockRatio =>
      cases stepped
      have toggled : { view with lockRatio := !view.lockRatio }.CacheFits :=
        ⟨kept.settled, kept.fits⟩
      obtain ⟨fixed, fits⟩ := fixRatio_kept toggled positive
      exact ⟨fun _ => fixed, fits⟩
  | matchSource matchPos matchSize =>
      cases stepped
      refine cacheFits_quiet rfl ?_
      cases matchSize with
      | true =>
          exact (matchSource_sized view desktop matchPos).cacheFits.mpr ⟨kept.settled, keeps rfl⟩
      | false => exact (matchSource_unsized view desktop matchPos).cacheFits.mpr kept
  | doSizing edge rect =>
      cases stepped
      exact cacheFits_quiet rfl (sizing_cacheFits kept positive)
  | sizeFinished =>
      cases stepped
      refine cacheFits_quiet rfl ?_
      simp only [sizeFinished]
      split
      · exact ⟨kept.settled, kept.fits⟩
      · exact kept
  | frameArrived contentSize =>
      refine cacheFits_quiet rfl ?_
      obtain ⟨mirror, -, rfl⟩ := Option.map_eq_some_iff.mp stepped
      exact ⟨kept.settled, kept.fits⟩

/-! From the drop on. -/

def KeepsCacheAtDrop (view : MiniView) (user : MiniViewUser) (desktop : Desktop) : Prop :=
  let caught := { view with rcClip := desktop.getClientRect view.rcClip }
  if user.defaultMatchSourceSize then
    view.StillFits false (caught.shownWidth desktop) (caught.shownHeight desktop)
  else view.StillFits view.internallyClipped view.window.cliWidth view.window.cliHeight

instance (view : MiniView) (user : MiniViewUser) (desktop : Desktop) :
    Decidable (view.KeepsCacheAtDrop user desktop) := by
  unfold KeepsCacheAtDrop
  infer_instance

theorem drop_cacheFits {view : MiniView} {user : MiniViewUser} {desktop : Desktop}
    (keeps : view.KeepsCacheAtDrop user desktop) (target : DropTarget) :
    (view.drop user desktop target).CacheFits := by
  simp only [KeepsCacheAtDrop] at keeps
  simp only [drop]
  cases sized : user.defaultMatchSourceSize with
  | false =>
      rw [(matchSourceByDefault_unsized _ sized desktop).cacheFits]
      simp only [sized, Bool.false_eq_true, if_false] at keeps
      split <;> exact ⟨rfl, keeps⟩
  | true =>
      rw [(matchSourceByDefault_sized _ sized desktop).cacheFits]
      simp only [sized, if_true] at keeps
      split <;> exact ⟨rfl, keeps⟩

/-- After a drop, and as long as no resize reaches a cache it does not fit, every call of
`FixRatio` with the ratio locked leaves an area inside the client area, with the ratio of the
region that is shown. -/
theorem fixRatio_fits (view : MiniView) (user : MiniViewUser) (desktop : Desktop)
    (target : DropTarget) (calls : List Call)
    (positive : Runs.Along step
      (Runs.After step fun _ call next => next.Positive call.desktop)
      (view.drop user desktop target) calls)
    (keepsAtDrop : view.KeepsCacheAtDrop user desktop)
    (keeps : Runs.Along step KeepsCache (view.drop user desktop target) calls) :
    Runs.Along step
      (Runs.After step fun view call next =>
        view.callsFixRatio call = true → next.Fixed call.desktop)
      (view.drop user desktop target) calls := by
  have both := Runs.along_and positive keeps
  refine Runs.along_of_invariant ?_ ?_ (drop_cacheFits keepsAtDrop target) both
  · intro view call kept allowed next stepped
    exact (cacheFits_step kept allowed.2 stepped (allowed.1 next stepped)).2
  · intro view call kept allowed next stepped
    exact (cacheFits_step kept allowed.2 stepped (allowed.1 next stepped)).1

/-! A square source dropped on by a view of twice its width. -/

def lockedUser : MiniViewUser := ⟨false, false, true, false⟩

def squareDesktop : Desktop := ⟨some ⟨0, 0, 100, 100⟩, false, ⟨none, ⟨100, 100⟩⟩, 0, 0⟩

def wideView : MiniView :=
  (init lockedUser).createThis 1 0 { squareDesktop with source := some ⟨0, 0, 1200, 600⟩ } 100 50
    Frame.none

theorem fixRatio_fits_wideView :
    Runs.Along step
      (Runs.After step fun view call next =>
        view.callsFixRatio call = true → next.Fixed call.desktop)
      (wideView.drop lockedUser squareDesktop ⟨2, false, true⟩)
      [⟨lockedUser, squareDesktop, .clearClipRegion⟩,
        ⟨lockedUser, squareDesktop, .doSizing .bottomRight ⟨0, 0, 80, 60⟩⟩,
        ⟨lockedUser, squareDesktop, .adjustCliWidth 50⟩,
        ⟨lockedUser, squareDesktop, .setClip true ⟨10, 10, 50, 30⟩⟩] :=
  fixRatio_fits wideView lockedUser squareDesktop ⟨2, false, true⟩ _ (by decide) (by decide)
    (by decide)

/-- The area painted before `AdjustCliWidth` is painted again after it, outside the smaller
client area. -/
theorem fixRatio_outside_afterAdjust :
    ¬ ∀ (user : MiniViewUser) (start desktop : Desktop) (target : DropTarget)
      (calls : List Call),
      let dropped := ((init user).createThis 1 0 start 100 50 Frame.none).drop user desktop target
      Runs.Along step (Runs.After step fun _ call next => next.Positive call.desktop)
        dropped calls →
      Runs.Along step
        (Runs.After step fun view call next =>
          view.callsFixRatio call = true → next.Fixed call.desktop) dropped calls := by
  intro claim
  have fits := claim lockedUser { squareDesktop with source := some ⟨0, 0, 1200, 600⟩ }
    squareDesktop ⟨2, false, true⟩
    [⟨lockedUser, squareDesktop, .clearClipRegion⟩,
      ⟨lockedUser, squareDesktop, .adjustCliWidth 50⟩,
      ⟨lockedUser, squareDesktop, .clearClipRegion⟩] (by decide)
  revert fits
  decide

end LeanMiniViews.MiniView
