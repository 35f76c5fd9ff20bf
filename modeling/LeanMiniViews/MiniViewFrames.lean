import LeanMiniViews.MiniViewCore

/-! What the shared parts of the operations leave alone. -/

namespace LeanMiniViews.MiniView

theorem fixRatio_eq (view : MiniView) (desktop : Desktop) :
    view.fixRatio desktop = { view with
      internallyClipped := (view.fixRatio desktop).internallyClipped
      rcInternalClip := (view.fixRatio desktop).rcInternalClip
      lastCliWidthFixedTo := (view.fixRatio desktop).lastCliWidthFixedTo
      lastCliHeightFixedTo := (view.fixRatio desktop).lastCliHeightFixedTo } := by
  simp only [fixRatio]
  split
  · split
    · split <;> rfl
    · rfl
  · rfl

theorem recreateMirror_eq (view : MiniView) (desktop : Desktop) :
    view.recreateMirror desktop =
      { view with
        graphicsCaptureMirror := (view.recreateMirror desktop).graphicsCaptureMirror } := by
  simp only [recreateMirror]
  split <;> rfl

theorem matchSource_eq (view : MiniView) (desktop : Desktop) (matchPos matchSize : Bool) :
    view.matchSource desktop matchPos matchSize = { view with
      graphicsCaptureMirror := (view.matchSource desktop matchPos matchSize).graphicsCaptureMirror
      window := view.matchedWindow desktop matchPos matchSize
      internallyClipped := (view.matchSource desktop matchPos matchSize).internallyClipped
      lastUserSetCliWidth := (view.matchSource desktop matchPos matchSize).lastUserSetCliWidth
      lastUserSetCliHeight :=
        (view.matchSource desktop matchPos matchSize).lastUserSetCliHeight } := by
  simp only [matchSource]
  rw [recreateMirror_eq]
  cases matchSize <;> rfl

theorem checkHideBySourceOnTop_eq (view : MiniView) (isSourceOnTop : Bool) :
    view.checkHideBySourceOnTop isSourceOnTop = { view with
      hiddenBySourceOnTop := (view.checkHideBySourceOnTop isSourceOnTop).hiddenBySourceOnTop
      window := (view.checkHideBySourceOnTop isSourceOnTop).window } := by
  simp only [checkHideBySourceOnTop]
  split
  · split
    · rfl
    · split <;> rfl
  · rfl

@[simp] theorem checkHideBySourceOnTop_sourceSize (view : MiniView) (isSourceOnTop : Bool) :
    (view.checkHideBySourceOnTop isSourceOnTop).sourceSize = view.sourceSize := by
  rw [checkHideBySourceOnTop_eq]

@[simp] theorem matchedWindow_hWnd (view : MiniView) (desktop : Desktop)
    (matchPos matchSize : Bool) :
    (view.matchedWindow desktop matchPos matchSize).hWnd = view.window.hWnd := by
  cases matchPos <;> cases matchSize <;> rfl

@[simp] theorem matchedWindow_visible (view : MiniView) (desktop : Desktop)
    (matchPos matchSize : Bool) :
    (view.matchedWindow desktop matchPos matchSize).visible = view.window.visible := by
  cases matchPos <;> cases matchSize <;> rfl

@[simp] theorem matchedWindow_editModeStyles (view : MiniView) (desktop : Desktop)
    (matchPos matchSize : Bool) :
    (view.matchedWindow desktop matchPos matchSize).editModeStyles =
      view.window.editModeStyles := by
  cases matchPos <;> cases matchSize <;> rfl

/-! The window of a view and the window it shows. -/

structure SameWindows (view other : MiniView) : Prop where
  hWnd : other.window.hWnd = view.window.hWnd
  hSource : other.hSource = view.hSource

theorem SameWindows.trans {view middle other : MiniView} (first : SameWindows view middle)
    (second : SameWindows middle other) : SameWindows view other :=
  ⟨second.hWnd.trans first.hWnd, second.hSource.trans first.hSource⟩

/-- The two copies of the edit mode a view has are left alone as well. -/
structure SameShell (view other : MiniView) : Prop extends SameWindows view other where
  editMode : other.editMode = view.editMode
  editModeStyles : other.window.editModeStyles = view.window.editModeStyles

theorem SameShell.trans {view middle other : MiniView} (first : SameShell view middle)
    (second : SameShell middle other) : SameShell view other :=
  ⟨first.toSameWindows.trans second.toSameWindows, second.editMode.trans first.editMode,
    second.editModeStyles.trans first.editModeStyles⟩

theorem fixRatio_sameShell (view : MiniView) (desktop : Desktop) :
    SameShell view (view.fixRatio desktop) := by
  rw [fixRatio_eq]
  exact ⟨⟨rfl, rfl⟩, rfl, rfl⟩

theorem matchSource_sameShell (view : MiniView) (desktop : Desktop)
    (matchPos matchSize : Bool) :
    SameShell view (view.matchSource desktop matchPos matchSize) := by
  rw [matchSource_eq]
  exact ⟨⟨matchedWindow_hWnd _ _ _ _, rfl⟩, rfl, matchedWindow_editModeStyles _ _ _ _⟩

theorem matchSourceByDefault_sameShell (view : MiniView) (user : MiniViewUser)
    (desktop : Desktop) : SameShell view (view.matchSourceByDefault user desktop) := by
  simp only [matchSourceByDefault]
  split
  · exact matchSource_sameShell _ _ _ _
  · exact ⟨⟨rfl, rfl⟩, rfl, rfl⟩

theorem setClip_sameShell (view : MiniView) (user : MiniViewUser) (desktop : Desktop)
    (isClipped : Bool) (left top right bottom : Int) :
    SameShell view (view.setClip user desktop isClipped left top right bottom) := by
  have fixed : ∀ chosen : MiniView, SameShell view chosen →
      SameShell view ((chosen.matchSourceByDefault user desktop).fixRatio desktop) :=
    fun chosen same => (same.trans (matchSourceByDefault_sameShell _ _ _)).trans
      (fixRatio_sameShell _ _)
  have clips := fixed { view with clipped := true, rcClip := ⟨left, top, right, bottom⟩ }
    ⟨⟨rfl, rfl⟩, rfl, rfl⟩
  simp only [setClip]
  split
  · split
    · exact ⟨⟨clips.hWnd, clips.hSource⟩, clips.editMode, clips.editModeStyles⟩
    · exact clips
  · exact ⟨⟨rfl, rfl⟩, rfl, rfl⟩

theorem checkHideBySourceOnTop_sameShell (view : MiniView) (isSourceOnTop : Bool) :
    SameShell view (view.checkHideBySourceOnTop isSourceOnTop) := by
  simp only [checkHideBySourceOnTop]
  split
  · split
    · exact ⟨⟨rfl, rfl⟩, rfl, rfl⟩
    · split <;> exact ⟨⟨rfl, rfl⟩, rfl, rfl⟩
  · exact ⟨⟨rfl, rfl⟩, rfl, rfl⟩

theorem toggleHideWhenSourceOnTop_sameShell (view : MiniView) (isSourceOnTop : Bool) :
    SameShell view (view.toggleHideWhenSourceOnTop isSourceOnTop) := by
  simp only [toggleHideWhenSourceOnTop]
  refine SameShell.trans ?_ (checkHideBySourceOnTop_sameShell _ _)
  split <;> exact ⟨⟨rfl, rfl⟩, rfl, rfl⟩

theorem validateProperties_sameShell (view : MiniView) (desktop : Desktop) :
    SameShell view (view.validateProperties desktop) := by
  have checked := checkHideBySourceOnTop_sameShell view desktop.sourceOnTop
  simp only [validateProperties]
  split
  · split
    · have fixed := fixRatio_sameShell { view.checkHideBySourceOnTop desktop.sourceOnTop with
        sourceSize := ⟨desktop.sourceWidth, desktop.sourceHeight⟩ } desktop
      split
      · exact checked.trans ⟨⟨fixed.hWnd, fixed.hSource⟩, fixed.editMode, fixed.editModeStyles⟩
      · exact checked.trans ⟨⟨fixed.hWnd, fixed.hSource⟩, fixed.editMode, fixed.editModeStyles⟩
    · exact checked
  · exact ⟨⟨rfl, rfl⟩, rfl, rfl⟩

theorem showByParentRequest_sameShell (view : MiniView) :
    SameShell view view.showByParentRequest := by
  simp only [showByParentRequest]
  split <;> exact ⟨⟨rfl, rfl⟩, rfl, rfl⟩

theorem hideByParentRequest_sameShell (view : MiniView) :
    SameShell view view.hideByParentRequest := by
  simp only [hideByParentRequest]
  split <;> exact ⟨⟨rfl, rfl⟩, rfl, rfl⟩

theorem setEditMode_sameWindows (view : MiniView) (desktop : Desktop) (newStatus : Bool) :
    SameWindows view (view.setEditMode desktop newStatus) := by
  cases newStatus <;> exact ⟨rfl, rfl⟩

theorem step_sameShell {view next : MiniView} {call : Call} (stepped : next ∈ view.step call)
    (other : ∀ newStatus, call.op ≠ .setEditMode newStatus) : SameShell view next := by
  obtain ⟨user, desktop, op⟩ := call
  cases op with
  | setClip isClipped rect =>
      cases stepped
      exact setClip_sameShell _ _ _ _ _ _ _ _
  | clearClipRegion =>
      cases stepped
      simp only [clearClipRegion]
      refine SameShell.trans ?_ (fixRatio_sameShell _ _)
      split <;> exact ⟨⟨rfl, rfl⟩, rfl, rfl⟩
  | setEditMode newStatus => exact absurd rfl (other newStatus)
  | validateProperties =>
      cases stepped
      exact validateProperties_sameShell _ _
  | showByParentRequest =>
      cases stepped
      exact showByParentRequest_sameShell _
  | hideByParentRequest =>
      cases stepped
      exact hideByParentRequest_sameShell _
  | toggleHideWhenSourceOnTop =>
      cases stepped
      exact toggleHideWhenSourceOnTop_sameShell _ _
  | toggleLockRatio =>
      cases stepped
      have same := fixRatio_sameShell { view with lockRatio := !view.lockRatio } desktop
      exact ⟨⟨same.hWnd, same.hSource⟩, same.editMode, same.editModeStyles⟩
  | matchSource matchPos matchSize =>
      cases stepped
      exact matchSource_sameShell _ _ _ _
  | doSizing edge rect =>
      cases stepped
      simp only [sizing, doSizing]
      split <;> exact ⟨⟨rfl, rfl⟩, rfl, rfl⟩
  | sizeFinished =>
      cases stepped
      simp only [sizeFinished]
      split <;> exact ⟨⟨rfl, rfl⟩, rfl, rfl⟩
  | adjustCliWidth newCliWidth =>
      cases stepped
      simp only [adjustCliWidth]
      split <;> exact ⟨⟨rfl, rfl⟩, rfl, rfl⟩
  | adjustCliHeight newCliHeight =>
      cases stepped
      simp only [adjustCliHeight]
      split <;> exact ⟨⟨rfl, rfl⟩, rfl, rfl⟩
  | frameArrived contentSize =>
      obtain ⟨mirror, -, rfl⟩ := Option.map_eq_some_iff.mp stepped
      exact ⟨⟨rfl, rfl⟩, rfl, rfl⟩
  | adjustClipTop newTop => cases stepped; exact ⟨⟨rfl, rfl⟩, rfl, rfl⟩
  | adjustClipLeft newLeft => cases stepped; exact ⟨⟨rfl, rfl⟩, rfl, rfl⟩
  | adjustClipRight newRight => cases stepped; exact ⟨⟨rfl, rfl⟩, rfl, rfl⟩
  | adjustClipBottom newBottom => cases stepped; exact ⟨⟨rfl, rfl⟩, rfl, rfl⟩
  | adjustWindowLeft newLeft => cases stepped; exact ⟨⟨rfl, rfl⟩, rfl, rfl⟩
  | adjustWindowTop newTop => cases stepped; exact ⟨⟨rfl, rfl⟩, rfl, rfl⟩

theorem step_sameWindows {view next : MiniView} {call : Call} (stepped : next ∈ view.step call) :
    SameWindows view next := by
  by_cases sets : ∃ newStatus, call.op = .setEditMode newStatus
  · obtain ⟨newStatus, isSet⟩ := sets
    simp only [step, isSet, Option.mem_def, Option.some.injEq] at stepped
    exact stepped ▸ setEditMode_sameWindows _ _ _
  · exact (step_sameShell stepped fun newStatus same => sets ⟨newStatus, same⟩).toSameWindows

def droppedSource (desktop : Desktop) (target : DropTarget) : HWND :=
  if !target.preferGraphicsCapture && target.gdiImageValid then target.newHandle
  else desktop.captureItem.rootSourceWindow.getD target.newHandle

theorem drop_windows (view : MiniView) (user : MiniViewUser) (desktop : Desktop)
    (target : DropTarget) :
    (view.drop user desktop target).window.hWnd = view.window.hWnd ∧
      (view.drop user desktop target).hSource = droppedSource desktop target := by
  simp only [drop]
  rw [(matchSourceByDefault_sameShell _ user desktop).hWnd,
    (matchSourceByDefault_sameShell _ user desktop).hSource]
  cases replicates : !target.preferGraphicsCapture && target.gdiImageValid <;>
    simp [droppedSource, replicates, Window.hideWindow, Window.showWindow, Mirror.createMirror,
      Mirror.createMirrorNoLock]

theorem drop_mode (view : MiniView) (user : MiniViewUser) (desktop : Desktop)
    (target : DropTarget) :
    (view.drop user desktop target).editMode = view.editMode ∧
      (view.drop user desktop target).window.editModeStyles = view.window.editModeStyles := by
  simp only [drop]
  rw [(matchSourceByDefault_sameShell _ user desktop).editMode,
    (matchSourceByDefault_sameShell _ user desktop).editModeStyles]
  split <;> exact ⟨rfl, rfl⟩

theorem exitSizeMove_mode (view : MiniView) (user : MiniViewUser) (desktop : Desktop)
    (target : DropTarget) :
    (view.exitSizeMove user desktop target).editMode = view.editMode ∧
      (view.exitSizeMove user desktop target).window.editModeStyles =
        view.window.editModeStyles := by
  simp only [exitSizeMove]
  split
  · exact drop_mode _ _ _ _
  · simp only [sizeFinished]
    split <;> exact ⟨rfl, rfl⟩

theorem exitSizeMove_windows (view : MiniView) (user : MiniViewUser) (desktop : Desktop)
    (target : DropTarget) :
    (view.exitSizeMove user desktop target).window.hWnd = view.window.hWnd ∧
      (view.exitSizeMove user desktop target).hSource =
        if view.settingWindow then droppedSource desktop target else view.hSource := by
  simp only [exitSizeMove]
  split
  · exact drop_windows _ _ _ _
  · simp only [sizeFinished]
    split <;> exact ⟨rfl, rfl⟩

end LeanMiniViews.MiniView
