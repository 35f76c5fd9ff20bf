import LeanMiniViews.MiniViewCore

/-!
The overlay, `MiniViews`, with its views and the window a clip is selected in. A view is named
by the handle its window was created with, and the system gives out no handle twice. The Views
tab can hold a view whose window is gone, so closed views are kept. The z-order and the dialog
have modules of their own; the notification icon and painting are left out.
-/

namespace LeanMiniViews

structure Creation where
  registers : Bool
  handle : HWND
deriving DecidableEq, Repr

structure ClassWindow where
  windowsItemHandle : HWND
  windowClassName : String
deriving DecidableEq, Repr

namespace ClassWindow

def init : ClassWindow := ⟨0, ""⟩

def windowClassIsRegistered (window : ClassWindow) (registeredClasses : List String)
    (className : String) : ClassWindow × Bool :=
  if registeredClasses.contains className then
    ({ window with windowClassName := className }, true)
  else ({ window with windowClassName := "" }, false)

def registerWindowClass (window : ClassWindow) (registeredClasses : List String)
    (className : String) (registers : Bool) : ClassWindow × List String × Bool :=
  if window.windowsItemHandle = 0 ∧ window.windowClassName = "" then
    let found := window.windowClassIsRegistered registeredClasses className
    if found.2 then ({ found.1 with windowClassName := className }, registeredClasses, true)
    else if registers then
      ({ found.1 with windowClassName := className }, registeredClasses ++ [className], true)
    else (found.1, registeredClasses, false)
  else (window, registeredClasses, false)

def createClassWindow (window : ClassWindow) (handle : HWND) : ClassWindow × Bool :=
  if window.windowsItemHandle = 0 ∧ window.windowClassName ≠ "" then
    if handle ≠ 0 then (⟨handle, ""⟩, true)
    else ({ window with windowsItemHandle := handle }, false)
  else (window, false)

def createThis (window : ClassWindow) (registeredClasses : List String) (className : String)
    (creation : Creation) : ClassWindow × List String × Bool :=
  let registered := window.registerWindowClass registeredClasses className creation.registers
  if registered.2.2 then
    let created := registered.1.createClassWindow creation.handle
    (created.1, registered.2.1, created.2)
  else registered

def destroyThis (_ : ClassWindow) : ClassWindow := ⟨0, ""⟩

end ClassWindow

/-- `overSource` is not a field of the source: it is the window that the selection window was
last created over. -/
structure ClipSel where
  classWindow : ClassWindow
  startX : Int
  startY : Int
  miniView : Option HWND
  rcClip : Rect
  overSource : HWND
deriving DecidableEq, Repr

namespace ClipSel

def init : ClipSel := ⟨ClassWindow.init, 0, 0, none, Rect.empty, 0⟩

def isOpen (clipSel : ClipSel) : Bool := clipSel.classWindow.windowsItemHandle != 0

def createThis (clipSel : ClipSel) (registeredClasses : List String) (miniViewToClip : MiniView)
    (creation : Creation) : ClipSel × List String :=
  let created := clipSel.classWindow.createThis registeredClasses "ClipSelWindow" creation
  ({ clipSel with
    classWindow := created.1
    miniView := some miniViewToClip.window.hWnd
    overSource := if created.2.2 then miniViewToClip.hSource else clipSel.overSource },
    created.2.1)

def destroyThis (clipSel : ClipSel) : ClipSel :=
  { clipSel with
    classWindow := clipSel.classWindow.destroyThis
    startX := 0
    startY := 0
    miniView := none
    rcClip := Rect.empty }

def lButtonDown (clipSel : ClipSel) (xc yc : Int) : ClipSel :=
  { clipSel with
    startX := xc
    startY := yc
    rcClip := { clipSel.rcClip with left := xc, top := yc } }

def selection (clipSel : ClipSel) (xc yc : Int) : Rect :=
  ⟨min clipSel.startX xc, min clipSel.startY yc, max clipSel.startX xc, max clipSel.startY yc⟩

def mouseMove (clipSel : ClipSel) (leftButton : Bool) (xc yc : Int) : ClipSel :=
  if leftButton then { clipSel with rcClip := clipSel.selection xc yc } else clipSel

end ClipSel

structure MiniViews where
  editMode : Bool
  transparencyAlpha : UInt8
  layeredAlpha : UInt8
  clickThrough : Bool
  currMiniViews : List MiniView
  closedMiniViews : List MiniView
  clipSel : ClipSel
  registeredClasses : List String
deriving DecidableEq, Repr

namespace MiniViews

/-- The constructor and `CreateThis`, which registers the class of the overlay. -/
def init (defaultOpacity : UInt8) : MiniViews where
  editMode := true
  transparencyAlpha := defaultOpacity
  layeredAlpha := defaultOpacity
  clickThrough := false
  currMiniViews := []
  closedMiniViews := []
  clipSel := ClipSel.init
  registeredClasses := ["wcMiniViews"]

def lookup (overlay : MiniViews) (hMiniView : HWND) : Option MiniView :=
  (overlay.currMiniViews ++ overlay.closedMiniViews).find? fun view =>
    view.window.hWnd == hMiniView

def isFresh (overlay : MiniViews) (handle : HWND) : Bool :=
  handle == 0 || (overlay.lookup handle).isNone

def update (overlay : MiniViews) (hMiniView : HWND) (change : MiniView → MiniView) : MiniViews :=
  let changed := fun view : MiniView =>
    if view.window.hWnd = hMiniView then change view else view
  { overlay with
    currMiniViews := overlay.currMiniViews.map changed
    closedMiniViews := overlay.closedMiniViews.map changed }

def toggleEditMode (overlay : MiniViews) (desktop : Desktop) : MiniViews :=
  { overlay with
    editMode := !overlay.editMode
    clickThrough := overlay.editMode
    currMiniViews := overlay.currMiniViews.map fun view =>
      view.setEditMode desktop !overlay.editMode }

def addMiniView (overlay : MiniViews) (user : MiniViewUser) (desktop : Desktop)
    (desktopWindow : HWND) (xc yc : Int) (editModeFrame : Frame) (creation : Creation) :
    MiniViews :=
  let editing := if overlay.editMode then overlay else overlay.toggleEditMode desktop
  let created := ClassWindow.init.createThis editing.registeredClasses "MiniViewWin" creation
  let newMiniView := (MiniView.init user).createThis created.1.windowsItemHandle desktopWindow
    desktop xc yc editModeFrame
  { editing with
    clickThrough := false
    registeredClasses := created.2.1
    currMiniViews := if created.2.2 then editing.currMiniViews ++ [newMiniView]
      else editing.currMiniViews }

def closeMiniView (overlay : MiniViews) (miniView : MiniView) : MiniViews :=
  { overlay with
    currMiniViews := overlay.currMiniViews.eraseP fun view =>
      view.window.hWnd == miniView.window.hWnd
    closedMiniViews := miniView :: overlay.closedMiniViews }

def clearMiniViews (overlay : MiniViews) : MiniViews :=
  { overlay with
    currMiniViews := []
    closedMiniViews := overlay.currMiniViews ++ overlay.closedMiniViews }

def setClipRegion (overlay : MiniViews) (miniView : MiniView) (desktop : Desktop)
    (creation : Creation) : MiniViews :=
  let editing := if overlay.editMode then overlay else overlay.toggleEditMode desktop
  let created := editing.clipSel.createThis editing.registeredClasses miniView creation
  { editing with
    layeredAlpha := 175
    currMiniViews := editing.currMiniViews.map MiniView.hideByParentRequest
    clipSel := created.1
    registeredClasses := created.2 }

def endSetClipRegion (overlay : MiniViews) (user : MiniViewUser) (desktop : Desktop)
    (hMiniView : HWND) (rcClip : Rect) : MiniViews :=
  let shown := { overlay with
    clipSel := overlay.clipSel.destroyThis
    currMiniViews := overlay.currMiniViews.map MiniView.showByParentRequest
    layeredAlpha := overlay.transparencyAlpha }
  shown.update hMiniView fun view =>
    view.setClip user desktop true rcClip.left rcClip.top rcClip.right rcClip.bottom

/-- `ClipSel::LButtonUp`. There is no result where the source dereferences a null pointer. -/
def lButtonUp (overlay : MiniViews) (user : MiniViewUser) (desktop : Desktop) (xc yc : Int) :
    Option MiniViews :=
  overlay.clipSel.miniView.map fun hMiniView =>
    let ended := overlay.endSetClipRegion user desktop hMiniView (overlay.clipSel.selection xc yc)
    { ended with clipSel := { ended.clipSel with rcClip := Rect.empty } }

def setOpacityLevel (overlay : MiniViews) (newOpacityLevel : UInt8) : MiniViews :=
  { overlay with transparencyAlpha := newOpacityLevel, layeredAlpha := newOpacityLevel }

def incrementAlpha (overlay : MiniViews) : MiniViews :=
  if overlay.transparencyAlpha.toNat + 10 > 255 then overlay.setOpacityLevel 255
  else overlay.setOpacityLevel (overlay.transparencyAlpha + 10)

def decrementAlpha (overlay : MiniViews) : MiniViews :=
  if overlay.transparencyAlpha.toNat < 10 then overlay.setOpacityLevel 0
  else overlay.setOpacityLevel (overlay.transparencyAlpha - 10)

/-- Messages to the overlay, to a view or to the selection window, with the answers of the
system. A `call` is any operation of a view but the two requests of the parent. -/
inductive Event where
  | addMiniView (user : MiniViewUser) (desktop : Desktop) (desktopWindow : HWND) (xc yc : Int)
      (editModeFrame : Frame) (creation : Creation)
  | closeMiniView (hMiniView : HWND)
  | clearMiniViews
  | setClipRegion (hMiniView : HWND) (desktop : Desktop) (creation : Creation)
  | lButtonDown (xc yc : Int)
  | mouseMove (leftButton : Bool) (xc yc : Int)
  | lButtonUp (user : MiniViewUser) (desktop : Desktop) (xc yc : Int)
  | toggleEditMode (desktop : Desktop)
  | setOpacityLevel (newOpacityLevel : UInt8)
  | incrementAlpha
  | decrementAlpha
  | exitSizeMove (hMiniView : HWND) (user : MiniViewUser) (desktop : Desktop)
      (target : MiniView.DropTarget)
  | call (hMiniView : HWND) (call : MiniView.Call)
deriving DecidableEq, Repr

/-- A message only reaches a window that exists, but the Views tab can call a closed view. -/
def step (overlay : MiniViews) : Event → Option MiniViews
  | .addMiniView user desktop desktopWindow xc yc editModeFrame creation =>
      if overlay.isFresh creation.handle then
        some (overlay.addMiniView user desktop desktopWindow xc yc editModeFrame creation)
      else none
  | .closeMiniView hMiniView =>
      (overlay.currMiniViews.find? fun view => view.window.hWnd == hMiniView).map
        overlay.closeMiniView
  | .clearMiniViews => some overlay.clearMiniViews
  | .setClipRegion hMiniView desktop creation =>
      (overlay.lookup hMiniView).map fun miniView =>
        (overlay.update hMiniView MiniView.setClipRegion).setClipRegion miniView.setClipRegion
          desktop creation
  | .lButtonDown xc yc =>
      if overlay.clipSel.isOpen then
        some { overlay with clipSel := overlay.clipSel.lButtonDown xc yc }
      else none
  | .mouseMove leftButton xc yc =>
      if overlay.clipSel.isOpen then
        some { overlay with clipSel := overlay.clipSel.mouseMove leftButton xc yc }
      else none
  | .lButtonUp user desktop xc yc =>
      if overlay.clipSel.isOpen then overlay.lButtonUp user desktop xc yc else none
  | .toggleEditMode desktop => some (overlay.toggleEditMode desktop)
  | .setOpacityLevel newOpacityLevel => some (overlay.setOpacityLevel newOpacityLevel)
  | .incrementAlpha => some overlay.incrementAlpha
  | .decrementAlpha => some overlay.decrementAlpha
  | .exitSizeMove hMiniView user desktop target =>
      (overlay.currMiniViews.find? fun view => view.window.hWnd == hMiniView).map fun _ =>
        overlay.update hMiniView fun view => view.exitSizeMove user desktop target
  | .call hMiniView call =>
      if MiniView.IsOwn call then
        (overlay.lookup hMiniView).bind fun view =>
          (view.step call).map fun next => overlay.update hMiniView fun _ => next
      else none

/-! What a message does that can be taken. -/

variable {overlay next : MiniViews}

theorem step_addMiniView {user : MiniViewUser} {desktop : Desktop} {desktopWindow : HWND}
    {xc yc : Int} {editModeFrame : Frame} {creation : Creation}
    (stepped : next ∈ overlay.step
      (.addMiniView user desktop desktopWindow xc yc editModeFrame creation)) :
    overlay.isFresh creation.handle = true ∧
      next = overlay.addMiniView user desktop desktopWindow xc yc editModeFrame creation := by
  obtain ⟨fresh, added⟩ := Option.ite_none_right_eq_some.mp stepped
  exact ⟨fresh, (Option.some.inj added).symm⟩

theorem step_lButtonDown {xc yc : Int} (stepped : next ∈ overlay.step (.lButtonDown xc yc)) :
    next = { overlay with clipSel := overlay.clipSel.lButtonDown xc yc } := by
  obtain ⟨_, pressed⟩ := Option.ite_none_right_eq_some.mp stepped
  exact (Option.some.inj pressed).symm

theorem step_mouseMove {leftButton : Bool} {xc yc : Int}
    (stepped : next ∈ overlay.step (.mouseMove leftButton xc yc)) :
    next = { overlay with clipSel := overlay.clipSel.mouseMove leftButton xc yc } := by
  obtain ⟨_, moved⟩ := Option.ite_none_right_eq_some.mp stepped
  exact (Option.some.inj moved).symm

theorem step_lButtonUp {user : MiniViewUser} {desktop : Desktop} {xc yc : Int}
    (stepped : next ∈ overlay.step (.lButtonUp user desktop xc yc)) :
    ∃ hMiniView ∈ overlay.clipSel.miniView,
      let ended := overlay.endSetClipRegion user desktop hMiniView
        (overlay.clipSel.selection xc yc)
      next = { ended with clipSel := { ended.clipSel with rcClip := Rect.empty } } := by
  obtain ⟨_, released⟩ := Option.ite_none_right_eq_some.mp stepped
  obtain ⟨hMiniView, target, ended⟩ := Option.map_eq_some_iff.mp released
  exact ⟨hMiniView, target, ended.symm⟩

theorem step_call {hMiniView : HWND} {call : MiniView.Call}
    (stepped : next ∈ overlay.step (.call hMiniView call)) :
    MiniView.IsOwn call ∧ ∃ view ∈ overlay.lookup hMiniView, ∃ changed ∈ view.step call,
      next = overlay.update hMiniView fun _ => changed := by
  obtain ⟨own, calls⟩ := Option.ite_none_right_eq_some.mp stepped
  obtain ⟨view, found, called⟩ := Option.bind_eq_some_iff.mp calls
  obtain ⟨changed, answered, updated⟩ := Option.map_eq_some_iff.mp called
  exact ⟨own, view, found, changed, answered, updated.symm⟩

theorem step_incrementAlpha (stepped : next ∈ overlay.step .incrementAlpha) :
    ∃ newOpacityLevel, next = overlay.setOpacityLevel newOpacityLevel := by
  cases stepped
  rw [incrementAlpha]
  split
  · exact ⟨255, rfl⟩
  · exact ⟨overlay.transparencyAlpha + 10, rfl⟩

theorem step_decrementAlpha (stepped : next ∈ overlay.step .decrementAlpha) :
    ∃ newOpacityLevel, next = overlay.setOpacityLevel newOpacityLevel := by
  cases stepped
  rw [decrementAlpha]
  split
  · exact ⟨0, rfl⟩
  · exact ⟨overlay.transparencyAlpha - 10, rfl⟩

end MiniViews

end LeanMiniViews
