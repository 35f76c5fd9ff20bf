import LeanMiniViews.SizeLimits
import LeanMiniViews.MiniViewPainting

/-!
Frames along a run. `FixRatio` computes the letterbox for the size the user chose last, and
`PaintMiniView` uses it in the client area there is.
-/

namespace LeanMiniViews.MiniView

/-! A letterbox is one that `FixRatio` has a key for. -/

def KeyedClip (view : MiniView) : Prop := view.cacheEmpty → view.internallyClipped = false

theorem keyedClip_of_whole {view : MiniView} (whole : view.internallyClipped = false) :
    view.KeyedClip := fun _ => whole

theorem keyedClip_of_key {view : MiniView} (key : view.lastCliWidthFixedTo ≠ 0) :
    view.KeyedClip := fun empty => absurd empty.1 key

theorem SameFit.keyedClip {view other : MiniView} (same : SameFit view other)
    (keyed : view.KeyedClip) : other.KeyedClip := by
  intro empty
  rw [cacheEmpty, same.lastCliWidthFixedTo, same.lastCliHeightFixedTo] at empty
  rw [same.internallyClipped]
  exact keyed empty

theorem fixRatio_keyedClip {view : MiniView} {desktop : Desktop} (keyed : view.KeyedClip)
    (wide : 0 < view.shownWidth desktop) : (view.fixRatio desktop).KeyedClip := by
  simp only [fixRatio]
  split
  · split
    · exact keyedClip_of_key (by simp only; omega)
    · exact keyed
  · exact keyed

theorem matchSource_keyedClip {view : MiniView} (keyed : view.KeyedClip) (desktop : Desktop)
    (matchPos matchSize : Bool) : (view.matchSource desktop matchPos matchSize).KeyedClip := by
  cases matchSize with
  | true => exact (matchSource_sized view desktop matchPos).keyedClip (keyedClip_of_whole rfl)
  | false => exact (matchSource_unsized view desktop matchPos).keyedClip keyed

theorem matchSourceByDefault_keyedClip {view : MiniView} (keyed : view.KeyedClip)
    (user : MiniViewUser) (desktop : Desktop) :
    (view.matchSourceByDefault user desktop).KeyedClip := by
  simp only [matchSourceByDefault]
  split
  · exact matchSource_keyedClip keyed desktop _ _
  · exact keyed

theorem setClip_keyedClip {view : MiniView} (keyed : view.KeyedClip) {user : MiniViewUser}
    {desktop : Desktop} {left top right bottom : Int}
    (positive : (view.setClip user desktop true left top right bottom).Positive desktop) :
    (view.setClip user desktop true left top right bottom).KeyedClip := by
  let chosen := { view with clipped := true, rcClip := ⟨left, top, right, bottom⟩ }
  have chosenKeyed : chosen.KeyedClip := keyed
  have matched := matchSourceByDefault_keyedClip chosenKeyed user desktop
  have told : SameFit ((chosen.matchSourceByDefault user desktop).fixRatio desktop)
      (view.setClip user desktop true left top right bottom) := by
    simp only [setClip, if_true]
    split <;> exact ⟨rfl, rfl, rfl, rfl, rfl, rfl, rfl, rfl, rfl, rfl⟩
  rw [told.positive, fixRatio_positive] at positive
  exact told.keyedClip (fixRatio_keyedClip matched positive.shownWidth)

theorem clearClipRegion_keyedClip {view : MiniView} (keyed : view.KeyedClip) {desktop : Desktop}
    (positive : (view.clearClipRegion desktop).Positive desktop) :
    (view.clearClipRegion desktop).KeyedClip := by
  simp only [clearClipRegion] at positive ⊢
  rw [fixRatio_positive] at positive
  refine fixRatio_keyedClip ?_ positive.shownWidth
  split <;> exact keyed

theorem validateProperties_keyedClip {view : MiniView} (keyed : view.KeyedClip)
    {desktop : Desktop} (positive : (view.validateProperties desktop).Positive desktop) :
    (view.validateProperties desktop).KeyedClip := by
  have checked := (checkHideBySourceOnTop_sameFit view desktop.sourceOnTop).keyedClip keyed
  simp only [validateProperties] at positive ⊢
  split at positive
  · rename_i isSource
    rw [if_pos isSource]
    split at positive
    · rename_i resized
      rw [if_pos resized]
      split at positive
      · rename_i mirrors
        rw [if_pos mirrors]
        have before := (fixRatio_positive _ desktop).mp ⟨positive.1, positive.2, positive.3,
          positive.4⟩
        have sized : KeyedClip { view.checkHideBySourceOnTop desktop.sourceOnTop with
            sourceSize := ⟨desktop.sourceWidth, desktop.sourceHeight⟩ } := checked
        exact fixRatio_keyedClip sized before.shownWidth
      · rename_i mirrors
        rw [if_neg mirrors]
        rw [fixRatio_positive] at positive
        exact fixRatio_keyedClip checked positive.shownWidth
    · rename_i resized
      rw [if_neg resized]
      exact checked
  · rename_i isSource
    rw [if_neg isSource]
    exact keyed

theorem adjustCliWidth_keyedClip {view : MiniView} (keyed : view.KeyedClip) {desktop : Desktop}
    {newCliWidth : Int} (positive : (view.adjustCliWidth desktop newCliWidth).Positive desktop) :
    (view.adjustCliWidth desktop newCliWidth).KeyedClip := by
  have wide := positive.shownWidth
  simp only [adjustCliWidth] at wide ⊢
  split at wide
  · rename_i locked
    rw [if_pos locked]
    exact keyedClip_of_key (Int.ne_of_gt wide)
  · rename_i unlocked
    rw [if_neg unlocked]
    exact keyed

theorem adjustCliHeight_keyedClip {view : MiniView} (keyed : view.KeyedClip) {desktop : Desktop}
    {newCliHeight : Int}
    (positive : (view.adjustCliHeight desktop newCliHeight).Positive desktop) :
    (view.adjustCliHeight desktop newCliHeight).KeyedClip := by
  have wide := positive.shownWidth
  simp only [adjustCliHeight] at wide ⊢
  split at wide
  · rename_i locked
    rw [if_pos locked]
    exact keyedClip_of_key (Int.ne_of_gt wide)
  · rename_i unlocked
    rw [if_neg unlocked]
    exact keyed

theorem toggleHideWhenSourceOnTop_keyedClip {view : MiniView} (keyed : view.KeyedClip)
    (isSourceOnTop : Bool) : (view.toggleHideWhenSourceOnTop isSourceOnTop).KeyedClip := by
  simp only [toggleHideWhenSourceOnTop]
  refine (checkHideBySourceOnTop_sameFit _ _).keyedClip ?_
  split <;> exact keyed

theorem toggleLockRatio_keyedClip {view : MiniView} (keyed : view.KeyedClip) {desktop : Desktop}
    (positive : (view.toggleLockRatio desktop).Positive desktop) :
    (view.toggleLockRatio desktop).KeyedClip := by
  have toggled : KeyedClip { view with lockRatio := !view.lockRatio } := keyed
  exact fixRatio_keyedClip toggled ((fixRatio_positive _ desktop).mp positive).shownWidth

theorem sizing_keyedClip (view : MiniView) (desktop : Desktop) (edge : SizingEdge) (rect : Rect) :
    (view.sizing desktop edge rect).KeyedClip := by
  refine keyedClip_of_whole ?_
  simp only [sizing, doSizing]
  split <;> rfl

theorem sizeFinished_keyedClip {view : MiniView} (keyed : view.KeyedClip) (desktop : Desktop) :
    (view.sizeFinished desktop).KeyedClip := by
  simp only [sizeFinished]
  split <;> exact keyed

theorem step_keyedClip {view next : MiniView} {call : Call} (keyed : view.KeyedClip)
    (stepped : next ∈ view.step call) (positive : next.Positive call.desktop) :
    next.KeyedClip := by
  obtain ⟨user, desktop, op⟩ := call
  cases op with
  | setClip isClipped rect =>
      cases stepped
      cases isClipped with
      | true => exact setClip_keyedClip keyed positive
      | false => exact keyed
  | clearClipRegion => cases stepped; exact clearClipRegion_keyedClip keyed positive
  | adjustClipTop newTop => cases stepped; exact keyedClip_of_whole rfl
  | adjustClipLeft newLeft => cases stepped; exact keyedClip_of_whole rfl
  | adjustClipRight newRight => cases stepped; exact keyedClip_of_whole rfl
  | adjustClipBottom newBottom => cases stepped; exact keyedClip_of_whole rfl
  | adjustWindowLeft newLeft => cases stepped; exact keyed
  | adjustWindowTop newTop => cases stepped; exact keyed
  | adjustCliWidth newCliWidth => cases stepped; exact adjustCliWidth_keyedClip keyed positive
  | adjustCliHeight newCliHeight => cases stepped; exact adjustCliHeight_keyedClip keyed positive
  | setEditMode newStatus => cases stepped; exact keyed
  | validateProperties => cases stepped; exact validateProperties_keyedClip keyed positive
  | showByParentRequest => cases stepped; exact keyed
  | hideByParentRequest => cases stepped; exact keyed
  | toggleHideWhenSourceOnTop =>
      cases stepped
      exact toggleHideWhenSourceOnTop_keyedClip keyed desktop.sourceOnTop
  | toggleLockRatio => cases stepped; exact toggleLockRatio_keyedClip keyed positive
  | matchSource matchPos matchSize =>
      cases stepped
      exact matchSource_keyedClip keyed desktop matchPos matchSize
  | doSizing edge rect => cases stepped; exact sizing_keyedClip view desktop edge rect
  | sizeFinished => cases stepped; exact sizeFinished_keyedClip keyed desktop
  | frameArrived contentSize =>
      obtain ⟨mirror, -, rfl⟩ := Option.map_eq_some_iff.mp stepped
      exact keyed

theorem drop_keyedClip {view : MiniView} (blank : view.Blank) (user : MiniViewUser)
    (desktop : Desktop) (target : DropTarget) : (view.drop user desktop target).KeyedClip := by
  simp only [drop]
  refine matchSourceByDefault_keyedClip (keyedClip_of_whole ?_) user desktop
  split <;> exact blank.internallyClipped

/-! What is seen of the picture. -/

/-- Frames of this view have the whole picture in the client area, and its sides have the ratio
for which the view was fixed last, unless it fills the client area without a key. -/
structure PaintsWhole (view : MiniView) : Prop where
  tracks : view.TracksGuide
  fits : view.paintDest = view.rcCli ∨
    Fits view.paintDest view.window.cliWidth view.window.cliHeight view.lastCliWidthFixedTo
      view.lastCliHeightFixedTo
  uncut : view.isGdiCompatible = true → ∀ (winGdiImageCache : Option WinGdiImage)
    (user : PaintUser) (desktop : Desktop) (answers : PaintAnswers) (screen : Canvas.Surface Ink),
      answers.stretches = true → answers.copies = true →
        ∀ x y, view.paintDest.contains x y = true →
          let caching : CachingView := ⟨view, winGdiImageCache⟩
          let shown := caching.paintMiniView user desktop answers screen x y
          shown = .frozenIcon ∨
            shown = .replica (caching.shownReplica user) (view.paintSource desktop answers)
              view.paintDest

theorem paintDest_eq {view : MiniView} (tracks : view.TracksGuide) :
    view.paintDest = view.paintArea := by
  simp only [paintDest, paintArea, tracks.width, tracks.height]

theorem Fits.inside {area : Rect} {cliWidth cliHeight sourceWidth sourceHeight x y : Int}
    (fits : Fits area cliWidth cliHeight sourceWidth sourceHeight)
    (inside : area.contains x y = true) :
    (wholeClient cliWidth cliHeight).contains x y = true := by
  rw [Rect.contains_iff] at inside ⊢
  obtain ⟨left, top, -, -, right, bottom, -⟩ := fits
  simp only [wholeClient]
  omega

theorem paintsWhole {view : MiniView} (tracks : view.TracksGuide) (kept : view.CacheFits)
    (keyed : view.KeyedClip) : view.PaintsWhole := by
  have fits : view.paintDest = view.rcCli ∨
      Fits view.paintDest view.window.cliWidth view.window.cliHeight view.lastCliWidthFixedTo
        view.lastCliHeightFixedTo := by
    rcases kept.fits with empty | fits
    · left
      simp [paintDest, rcCli, keyed empty]
    · right
      rw [PaintFits, ← paintDest_eq tracks, ← tracks.width, ← tracks.height] at fits
      exact fits
  refine ⟨tracks, fits, ?_⟩
  intro gdi winGdiImageCache user desktop answers screen stretches copies x y pictured caching
    shown
  have inside : view.rcCli.contains x y = true := by
    rcases fits with whole | fits
    · rwa [← whole]
    · exact fits.inside pictured
  have painted : shown = caching.frame user desktop answers x y :=
    (CachingView.paintMiniView_frame gdi user desktop stretches copies screen x y).trans
      (if_pos inside)
  rw [painted, CachingView.frame]
  by_cases icon : caching.showsIcon user answers x y = true
  · exact Or.inl (if_pos icon)
  · rw [if_neg icon]
    exact Or.inr (if_pos pictured)

/-- From the drop on, and as long as no resize reaches a cache it does not fit, every frame of the
view shows the whole picture, in the ratio of the source wherever `FixRatio` was just called with
the ratio locked. -/
theorem frames_whole (user : MiniViewUser) (hWnd sourceHandle : HWND) (start : Desktop)
    (xc yc : Int) (frame : Frame) (before : List Call) (blank : MiniView)
    (grantedBefore : ((init user).createThis hWnd sourceHandle start xc yc frame).window.Granted
      (minTrackSize start))
    (grantsBefore : Runs.Along limitedStep Grants
      ((init user).limitedCreateThis hWnd sourceHandle start xc yc frame) before)
    (reached : Runs.final limitedStep
      ((init user).limitedCreateThis hWnd sourceHandle start xc yc frame) before = some blank)
    (dropUser : MiniViewUser) (desktop : Desktop) (target : DropTarget) (calls : List Call)
    (granted : dropUser.defaultMatchSourceSize = true →
      (blank.drop dropUser desktop target).window.Granted (minTrackSize desktop))
    (grants : Runs.Along limitedStep Grants (blank.limitedDrop dropUser desktop target) calls)
    (keepsAtDrop : blank.KeepsCacheAtDrop dropUser desktop)
    (positive : Runs.Along limitedStep
      (Runs.After limitedStep fun _ call next => next.Positive call.desktop)
      (blank.limitedDrop dropUser desktop target) calls)
    (keeps : Runs.Along limitedStep KeepsCache (blank.limitedDrop dropUser desktop target) calls) :
    Runs.Along limitedStep
      (Runs.After limitedStep fun view call next =>
        next.PaintsWhole ∧
          (view.callsFixRatio call = true → next.lockRatio = true →
            Fits next.paintDest next.window.cliWidth next.window.cliHeight
              (next.shownWidth call.desktop) (next.shownHeight call.desktop)))
      (blank.limitedDrop dropUser desktop target) calls := by
  rw [limitedCreateThis, limitSize_of_granted grantedBefore] at grantsBefore reached
  rw [final_of_grants grantsBefore] at reached
  have isBlank : blank.Blank := reachable_blank (createThis_blank _ _ _ _ _ _ _) reached
  rw [limitedDrop_of_granted granted] at grants positive keeps ⊢
  have initial : (blank.drop dropUser desktop target).CacheFits ∧
      (blank.drop dropUser desktop target).TracksGuide ∧
      (blank.drop dropUser desktop target).KeyedClip :=
    ⟨drop_cacheFits keepsAtDrop target, drop_tracks _ _ _ _, drop_keyedClip isBlank _ _ _⟩
  have kept (view : MiniView) (call : Call)
      (invariant : view.CacheFits ∧ view.TracksGuide ∧ view.KeyedClip)
      (allowed : view.Grants call ∧
        Runs.After limitedStep (fun _ call next => next.Positive call.desktop) view call ∧
          view.KeepsCache call) (next : MiniView) (stepped : next ∈ view.limitedStep call) :
      next.CacheFits ∧ next.TracksGuide ∧ next.KeyedClip := by
    have nonzero : next.Positive call.desktop := allowed.2.1 next stepped
    rw [limitedStep_of_grants allowed.1] at stepped
    exact ⟨(cacheFits_step invariant.1 allowed.2.2 stepped nonzero).2,
      step_tracks invariant.2.1 stepped, step_keyedClip invariant.2.2 stepped nonzero⟩
  refine Runs.along_of_invariant kept ?_ initial
    (Runs.along_and grants (Runs.along_and positive keeps))
  intro view call invariant allowed next stepped
  obtain ⟨fits, tracks, keyed⟩ := kept view call invariant allowed next stepped
  have nonzero : next.Positive call.desktop := allowed.2.1 next stepped
  rw [limitedStep_of_grants allowed.1] at stepped
  obtain ⟨fixes, -⟩ := cacheFits_step invariant.1 allowed.2.2 stepped nonzero
  refine ⟨paintsWhole tracks fits keyed, ?_⟩
  intro fixesRatio locked
  have fixed := fixes fixesRatio locked
  rw [PaintFits, ← paintDest_eq tracks, ← tracks.width, ← tracks.height] at fixed
  exact fixed

theorem frames_whole_wideView :
    Runs.Along limitedStep
      (Runs.After limitedStep fun view call next =>
        next.PaintsWhole ∧
          (view.callsFixRatio call = true → next.lockRatio = true →
            Fits next.paintDest next.window.cliWidth next.window.cliHeight
              (next.shownWidth call.desktop) (next.shownHeight call.desktop)))
      (wideView.limitedDrop lockedUser squareDesktop ⟨2, false, true⟩)
      [⟨lockedUser, squareDesktop, .clearClipRegion⟩,
        ⟨lockedUser, squareDesktop, .setEditMode false⟩,
        ⟨lockedUser, squareDesktop, .doSizing .bottomRight ⟨0, 0, 80, 60⟩⟩,
        ⟨lockedUser, squareDesktop, .setClip true ⟨10, 10, 50, 30⟩⟩] :=
  frames_whole lockedUser 1 0 { squareDesktop with source := some ⟨0, 0, 1200, 600⟩ } 100 50
    Frame.none [] wideView (by decide) trivial rfl lockedUser squareDesktop ⟨2, false, true⟩ _
    (by decide) (by decide) (by decide) (by decide) (by decide)

end LeanMiniViews.MiniView
