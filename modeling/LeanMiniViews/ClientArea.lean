import LeanMiniViews.LockedRatio

/-!
The client area of a view on the screen. Its size is the one the user chose last all along, and
only what is meant to move or resize a view changes it.
-/

namespace LeanMiniViews.MiniView

/-! The size the user chose last. -/

structure TracksGuide (view : MiniView) : Prop where
  width : view.window.cliWidth = view.lastUserSetCliWidth
  height : view.window.cliHeight = view.lastUserSetCliHeight

structure SameSize (view other : MiniView) : Prop where
  cliWidth : other.window.cliWidth = view.window.cliWidth
  cliHeight : other.window.cliHeight = view.window.cliHeight
  guideWidth : other.lastUserSetCliWidth = view.lastUserSetCliWidth
  guideHeight : other.lastUserSetCliHeight = view.lastUserSetCliHeight

theorem SameSize.trans {view middle other : MiniView} (first : SameSize view middle)
    (second : SameSize middle other) : SameSize view other :=
  ⟨second.cliWidth.trans first.cliWidth, second.cliHeight.trans first.cliHeight,
    second.guideWidth.trans first.guideWidth, second.guideHeight.trans first.guideHeight⟩

theorem SameSize.tracks {view other : MiniView} (same : SameSize view other)
    (tracks : view.TracksGuide) : other.TracksGuide := by
  refine ⟨?_, ?_⟩
  · rw [same.cliWidth, same.guideWidth, tracks.width]
  · rw [same.cliHeight, same.guideHeight, tracks.height]

theorem fixRatio_sameSize (view : MiniView) (desktop : Desktop) :
    SameSize view (view.fixRatio desktop) := by
  rw [fixRatio_eq]
  exact ⟨rfl, rfl, rfl, rfl⟩

theorem checkHideBySourceOnTop_sameSize (view : MiniView) (isSourceOnTop : Bool) :
    SameSize view (view.checkHideBySourceOnTop isSourceOnTop) := by
  simp only [checkHideBySourceOnTop]
  split
  · split
    · exact ⟨rfl, rfl, rfl, rfl⟩
    · split <;> exact ⟨rfl, rfl, rfl, rfl⟩
  · exact ⟨rfl, rfl, rfl, rfl⟩

theorem validateProperties_sameSize (view : MiniView) (desktop : Desktop) :
    SameSize view (view.validateProperties desktop) := by
  have checked := view.checkHideBySourceOnTop_sameSize desktop.sourceOnTop
  simp only [validateProperties]
  split
  · split
    · refine (checked.trans ?_)
      split
      · exact ⟨(fixRatio_sameSize _ desktop).cliWidth, (fixRatio_sameSize _ desktop).cliHeight,
          (fixRatio_sameSize _ desktop).guideWidth, (fixRatio_sameSize _ desktop).guideHeight⟩
      · exact ⟨(fixRatio_sameSize _ desktop).cliWidth, (fixRatio_sameSize _ desktop).cliHeight,
          (fixRatio_sameSize _ desktop).guideWidth, (fixRatio_sameSize _ desktop).guideHeight⟩
    · exact checked
  · exact ⟨rfl, rfl, rfl, rfl⟩

/-- The frame that comes or goes is added to the client area, not taken from it. -/
theorem setEditMode_sameSize (view : MiniView) (desktop : Desktop) (newStatus : Bool) :
    SameSize view (view.setEditMode desktop newStatus) := by
  refine ⟨?_, ?_, rfl, rfl⟩
  · simp [setEditMode, Window.cliWidth, Window.setPos, Window.frame]
  · simp [setEditMode, Window.cliHeight, Window.setPos, Window.frame]

theorem restoreSize_tracks (view : MiniView) : view.restoreSize.TracksGuide := by
  refine ⟨?_, ?_⟩
  · simp [restoreSize, getBorderSize, Window.cliWidth, Window.setWidth, Window.setHeight,
      Window.frame]
  · simp [restoreSize, getBorderSize, Window.cliHeight, Window.setWidth, Window.setHeight,
      Window.frame]

theorem setCliSize_tracks (view : MiniView) (newCliWidth newCliHeight : Int) :
    (view.setCliSize newCliWidth newCliHeight).TracksGuide := by
  refine ⟨?_, ?_⟩
  · simp [setCliSize, getBorderSize, Window.cliWidth, Window.setSize, Window.frame]
  · simp [setCliSize, getBorderSize, Window.cliHeight, Window.setSize, Window.frame]

theorem matchSource_tracks {view : MiniView} (tracks : view.TracksGuide) (desktop : Desktop)
    (matchPos matchSize : Bool) : (view.matchSource desktop matchPos matchSize).TracksGuide := by
  simp only [matchSource]
  rw [recreateMirror_eq]
  cases matchSize with
  | true => exact ⟨rfl, rfl⟩
  | false => cases matchPos <;> exact ⟨tracks.width, tracks.height⟩

theorem matchSourceByDefault_tracks {view : MiniView} (tracks : view.TracksGuide)
    (user : MiniViewUser) (desktop : Desktop) :
    (view.matchSourceByDefault user desktop).TracksGuide := by
  simp only [matchSourceByDefault]
  split
  · exact matchSource_tracks tracks desktop _ _
  · exact tracks

theorem setClip_tracks {view : MiniView} (tracks : view.TracksGuide) (user : MiniViewUser)
    (desktop : Desktop) (isClipped : Bool) (left top right bottom : Int) :
    (view.setClip user desktop isClipped left top right bottom).TracksGuide := by
  cases isClipped with
  | false => exact ⟨tracks.width, tracks.height⟩
  | true =>
      let chosen := { view with clipped := true, rcClip := ⟨left, top, right, bottom⟩ }
      have chosenTracks : chosen.TracksGuide := ⟨tracks.width, tracks.height⟩
      have matched := matchSourceByDefault_tracks chosenTracks user desktop
      have fixed := (fixRatio_sameSize _ desktop).tracks matched
      simp only [setClip, if_true]
      split
      · exact ⟨fixed.width, fixed.height⟩
      · exact fixed

theorem doSizing_size (view : MiniView) (desktop : Desktop) (edge : SizingEdge) (rect : Rect) :
    let answer := view.doSizing desktop edge rect
    answer.1.window = view.window ∧
      answer.1.lastUserSetCliWidth = answer.2.width - view.getBorderSize.1 ∧
      answer.1.lastUserSetCliHeight = answer.2.height - view.getBorderSize.2 := by
  simp only [doSizing]
  split
  · exact ⟨rfl, rfl, rfl⟩
  · exact ⟨rfl, rfl, rfl⟩

theorem sizing_tracks (view : MiniView) (desktop : Desktop) (edge : SizingEdge) (rect : Rect) :
    (view.sizing desktop edge rect).TracksGuide := by
  obtain ⟨window, width, height⟩ := view.doSizing_size desktop edge rect
  refine ⟨?_, ?_⟩
  · simp only [sizing, width, window]
    simp only [Window.cliWidth, Window.setPos, Window.frame, getBorderSize, sub_sub_cancel]
    rfl
  · simp only [sizing, height, window]
    simp only [Window.cliHeight, Window.setPos, Window.frame, getBorderSize, sub_sub_cancel]
    rfl

theorem clearClipRegion_tracks (view : MiniView) (desktop : Desktop) :
    (view.clearClipRegion desktop).TracksGuide := by
  simp only [clearClipRegion]
  refine (fixRatio_sameSize _ desktop).tracks ?_
  split
  · exact ⟨(restoreSize_tracks _).width, (restoreSize_tracks _).height⟩
  · exact ⟨(restoreSize_tracks _).width, (restoreSize_tracks _).height⟩

theorem adjustCliWidth_tracks (view : MiniView) (desktop : Desktop) (newCliWidth : Int) :
    (view.adjustCliWidth desktop newCliWidth).TracksGuide := by
  simp only [adjustCliWidth]
  split <;> exact setCliSize_tracks _ _ _

theorem adjustCliHeight_tracks (view : MiniView) (desktop : Desktop) (newCliHeight : Int) :
    (view.adjustCliHeight desktop newCliHeight).TracksGuide := by
  simp only [adjustCliHeight]
  split <;> exact setCliSize_tracks _ _ _

theorem showByParentRequest_tracks {view : MiniView} (tracks : view.TracksGuide) :
    view.showByParentRequest.TracksGuide := by
  simp only [showByParentRequest]
  split <;> exact ⟨tracks.width, tracks.height⟩

theorem hideByParentRequest_tracks {view : MiniView} (tracks : view.TracksGuide) :
    view.hideByParentRequest.TracksGuide := by
  simp only [hideByParentRequest]
  split <;> exact ⟨tracks.width, tracks.height⟩

theorem toggleHideWhenSourceOnTop_tracks {view : MiniView} (tracks : view.TracksGuide)
    (isSourceOnTop : Bool) : (view.toggleHideWhenSourceOnTop isSourceOnTop).TracksGuide := by
  simp only [toggleHideWhenSourceOnTop]
  refine (checkHideBySourceOnTop_sameSize _ _).tracks ?_
  split <;> exact ⟨tracks.width, tracks.height⟩

theorem sizeFinished_tracks {view : MiniView} (tracks : view.TracksGuide) (desktop : Desktop) :
    (view.sizeFinished desktop).TracksGuide := by
  simp only [sizeFinished]
  split <;> exact ⟨tracks.width, tracks.height⟩

theorem step_tracks {view next : MiniView} {call : Call} (tracks : view.TracksGuide)
    (stepped : next ∈ view.step call) : next.TracksGuide := by
  obtain ⟨user, desktop, op⟩ := call
  cases op with
  | setClip isClipped rect =>
      cases stepped
      exact setClip_tracks tracks user desktop isClipped _ _ _ _
  | clearClipRegion => cases stepped; exact clearClipRegion_tracks view desktop
  | adjustClipTop newTop => cases stepped; exact ⟨tracks.width, tracks.height⟩
  | adjustClipLeft newLeft => cases stepped; exact ⟨tracks.width, tracks.height⟩
  | adjustClipRight newRight => cases stepped; exact ⟨tracks.width, tracks.height⟩
  | adjustClipBottom newBottom => cases stepped; exact ⟨tracks.width, tracks.height⟩
  | adjustWindowLeft newLeft => cases stepped; exact ⟨tracks.width, tracks.height⟩
  | adjustWindowTop newTop => cases stepped; exact ⟨tracks.width, tracks.height⟩
  | adjustCliWidth newCliWidth => cases stepped; exact adjustCliWidth_tracks view desktop _
  | adjustCliHeight newCliHeight => cases stepped; exact adjustCliHeight_tracks view desktop _
  | setEditMode newStatus =>
      cases stepped
      exact (setEditMode_sameSize view desktop newStatus).tracks tracks
  | validateProperties =>
      cases stepped
      exact (validateProperties_sameSize view desktop).tracks tracks
  | showByParentRequest => cases stepped; exact showByParentRequest_tracks tracks
  | hideByParentRequest => cases stepped; exact hideByParentRequest_tracks tracks
  | toggleHideWhenSourceOnTop =>
      cases stepped
      exact toggleHideWhenSourceOnTop_tracks tracks desktop.sourceOnTop
  | toggleLockRatio =>
      cases stepped
      exact (fixRatio_sameSize _ desktop).tracks ⟨tracks.width, tracks.height⟩
  | matchSource matchPos matchSize =>
      cases stepped
      exact matchSource_tracks tracks desktop matchPos matchSize
  | doSizing edge rect =>
      cases stepped
      exact sizing_tracks view desktop edge rect
  | sizeFinished => cases stepped; exact sizeFinished_tracks tracks desktop
  | frameArrived contentSize =>
      obtain ⟨mirror, -, rfl⟩ := Option.map_eq_some_iff.mp stepped
      exact ⟨tracks.width, tracks.height⟩

theorem drop_tracks (view : MiniView) (user : MiniViewUser) (desktop : Desktop)
    (target : DropTarget) : (view.drop user desktop target).TracksGuide := by
  simp only [drop]
  refine matchSourceByDefault_tracks ?_ user desktop
  split <;> exact ⟨rfl, rfl⟩

/-! Where the client area is. -/

/-- In the client area of the overlay. -/
def clientRect (view : MiniView) : Rect :=
  let left := view.window.left + view.window.frame.left
  let top := view.window.top + view.window.frame.top
  ⟨left, top, left + view.window.cliWidth, top + view.window.cliHeight⟩

/-- The call is meant to move or to resize the view. -/
def moves (call : Call) : Bool :=
  match call.op with
  | .setClip isClipped _ =>
      isClipped && (call.user.defaultMatchSourcePosition || call.user.defaultMatchSourceSize)
  | .matchSource matchPos matchSize => matchPos || matchSize
  | .adjustWindowLeft _ => true
  | .adjustWindowTop _ => true
  | .adjustCliWidth _ => true
  | .adjustCliHeight _ => true
  | .doSizing _ _ => true
  | _ => false

/-- Nothing but its visibility differs. -/
structure SamePlace (view other : MiniView) : Prop where
  left : other.window.left = view.window.left
  top : other.window.top = view.window.top
  width : other.window.width = view.window.width
  height : other.window.height = view.window.height
  frame : other.window.frame = view.window.frame

namespace SamePlace

variable {view middle other : MiniView}

theorem of_window (same : other.window = view.window) : SamePlace view other := by
  constructor <;> rw [same]

theorem trans (first : SamePlace view middle) (second : SamePlace middle other) :
    SamePlace view other :=
  ⟨second.left.trans first.left, second.top.trans first.top, second.width.trans first.width,
    second.height.trans first.height, second.frame.trans first.frame⟩

theorem clientRect (same : SamePlace view other) : other.clientRect = view.clientRect := by
  simp only [MiniView.clientRect, Window.cliWidth, Window.cliHeight, same.left, same.top,
    same.width, same.height, same.frame]

end SamePlace

theorem fixRatio_window (view : MiniView) (desktop : Desktop) :
    (view.fixRatio desktop).window = view.window := by
  rw [fixRatio_eq]

theorem checkHideBySourceOnTop_samePlace (view : MiniView) (isSourceOnTop : Bool) :
    SamePlace view (view.checkHideBySourceOnTop isSourceOnTop) := by
  simp only [checkHideBySourceOnTop]
  split
  · split
    · exact ⟨rfl, rfl, rfl, rfl, rfl⟩
    · split <;> exact ⟨rfl, rfl, rfl, rfl, rfl⟩
  · exact .of_window rfl

theorem validateProperties_samePlace (view : MiniView) (desktop : Desktop) :
    SamePlace view (view.validateProperties desktop) := by
  have checked := view.checkHideBySourceOnTop_samePlace desktop.sourceOnTop
  simp only [validateProperties]
  split
  · split
    · split
      · exact checked.trans (.of_window (fixRatio_window _ desktop))
      · exact checked.trans (.of_window (fixRatio_window _ desktop))
    · exact checked
  · exact .of_window rfl

/-- The window is given the size it has. -/
theorem restoreSize_samePlace {view : MiniView} (tracks : view.TracksGuide) :
    SamePlace view view.restoreSize := by
  refine ⟨rfl, rfl, ?_, ?_, rfl⟩
  · simp [restoreSize, getBorderSize, ← tracks.width, Window.setWidth, Window.setHeight]
  · simp [restoreSize, getBorderSize, ← tracks.height, Window.setWidth, Window.setHeight]

/-- The window moves by what the frame takes. -/
theorem setEditMode_clientRect (view : MiniView) (desktop : Desktop) (newStatus : Bool) :
    (view.setEditMode desktop newStatus).clientRect = view.clientRect := by
  have size := view.setEditMode_sameSize desktop newStatus
  have left : (view.setEditMode desktop newStatus).clientRect.left = view.clientRect.left := by
    simp only [clientRect, setEditMode, getClientScreenTopLeft, Window.setPos, Window.frame]
    split <;> simp only [Window.showWindow] <;> omega
  have top : (view.setEditMode desktop newStatus).clientRect.top = view.clientRect.top := by
    simp only [clientRect, setEditMode, getClientScreenTopLeft, Window.setPos, Window.frame]
    split <;> simp only [Window.showWindow] <;> omega
  simp only [clientRect] at left top
  simp only [clientRect, left, top, size.cliWidth, size.cliHeight]

theorem setClip_samePlace {view : MiniView} {user : MiniViewUser} {isClipped : Bool}
    (unmoved : (isClipped &&
      (user.defaultMatchSourcePosition || user.defaultMatchSourceSize)) = false)
    (desktop : Desktop) (left top right bottom : Int) :
    SamePlace view (view.setClip user desktop isClipped left top right bottom) := by
  cases isClipped with
  | false => exact .of_window rfl
  | true =>
      simp only [Bool.true_and] at unmoved
      simp only [setClip, if_true, matchSourceByDefault, unmoved, Bool.false_eq_true, if_false]
      split
      · exact .of_window (fixRatio_window _ desktop)
      · exact .of_window (fixRatio_window _ desktop)

theorem clearClipRegion_window (view : MiniView) (desktop : Desktop) :
    (view.clearClipRegion desktop).window = view.restoreSize.window := by
  simp only [clearClipRegion, fixRatio_window]
  split <;> rfl

theorem step_clientRect {view next : MiniView} {call : Call} (tracks : view.TracksGuide)
    (unmoved : moves call = false) (stepped : next ∈ view.step call) :
    next.clientRect = view.clientRect := by
  obtain ⟨user, desktop, op⟩ := call
  cases op with
  | setClip isClipped rect =>
      cases stepped
      exact (setClip_samePlace unmoved desktop _ _ _ _).clientRect
  | clearClipRegion =>
      cases stepped
      exact ((restoreSize_samePlace tracks).trans
        (.of_window (clearClipRegion_window view desktop))).clientRect
  | adjustClipTop newTop => cases stepped; rfl
  | adjustClipLeft newLeft => cases stepped; rfl
  | adjustClipRight newRight => cases stepped; rfl
  | adjustClipBottom newBottom => cases stepped; rfl
  | adjustWindowLeft newLeft => cases unmoved
  | adjustWindowTop newTop => cases unmoved
  | adjustCliWidth newCliWidth => cases unmoved
  | adjustCliHeight newCliHeight => cases unmoved
  | setEditMode newStatus => cases stepped; exact setEditMode_clientRect view desktop newStatus
  | validateProperties =>
      cases stepped
      exact (validateProperties_samePlace view desktop).clientRect
  | showByParentRequest =>
      cases stepped
      simp only [showByParentRequest]
      split <;> rfl
  | hideByParentRequest =>
      cases stepped
      simp only [hideByParentRequest]
      split <;> rfl
  | toggleHideWhenSourceOnTop =>
      cases stepped
      simp only [toggleHideWhenSourceOnTop]
      rw [(checkHideBySourceOnTop_samePlace _ _).clientRect]
      split <;> rfl
  | toggleLockRatio =>
      cases stepped
      exact (SamePlace.of_window (fixRatio_window _ desktop)).clientRect
  | matchSource matchPos matchSize =>
      cases stepped
      simp only [moves, Bool.or_eq_false_iff] at unmoved
      obtain ⟨rfl, rfl⟩ := unmoved
      exact (SamePlace.of_window (congrArg window (matchSource_eq view desktop _ _))).clientRect
  | doSizing edge rect => cases unmoved
  | sizeFinished =>
      cases stepped
      simp only [sizeFinished]
      split <;> rfl
  | frameArrived contentSize =>
      obtain ⟨mirror, -, rfl⟩ := Option.map_eq_some_iff.mp stepped
      rfl

end LeanMiniViews.MiniView
