import LeanMiniViews.MirrorCore

/-!
One `MiniView`: its fields, what its window has been told, and its operations. Every
operation is given the answers of the system while it runs, a `Desktop`, and those of
the `IMiniViewUser`. The system grants every size, position and visibility asked for.
Painting, titles and the cached image are left out.
-/

namespace LeanMiniViews

structure SourceWindow where
  left : Int
  top : Int
  width : Int
  height : Int
deriving DecidableEq, Repr

/-- What the system answers during one operation: the source's client area on the screen, unless
`hSource` is no window any more, whether the source is on top, what a capture of it yields, and
where the client area of the overlay lies on the screen. -/
structure Desktop where
  source : Option SourceWindow
  sourceOnTop : Bool
  captureItem : CaptureItem
  overlayLeft : Int
  overlayTop : Int
deriving DecidableEq, Repr

namespace Desktop

def sourceLeft (desktop : Desktop) : Int := desktop.source.elim 0 (·.left)

def sourceTop (desktop : Desktop) : Int := desktop.source.elim 0 (·.top)

def sourceWidth (desktop : Desktop) : Int := desktop.source.elim 0 (·.width)

def sourceHeight (desktop : Desktop) : Int := desktop.source.elim 0 (·.height)

/-- `GetClientRect(hSource, &rect)`, which leaves `rect` alone when it fails. -/
def getClientRect (desktop : Desktop) (rect : Rect) : Rect :=
  desktop.source.elim rect fun source => ⟨0, 0, source.width, source.height⟩

end Desktop

structure MiniViewUser where
  defaultMatchSourcePosition : Bool
  defaultMatchSourceSize : Bool
  defaultLockSizeRatio : Bool
  defaultHideWhenSourceOnTop : Bool
deriving DecidableEq, Repr

structure Frame where
  left : Int
  top : Int
  right : Int
  bottom : Int
deriving DecidableEq, Repr

def Frame.none : Frame := ⟨0, 0, 0, 0⟩

/-- The window of a MiniView: its outer rectangle in the client area of the overlay, whether it
is shown, and whether it has the edit mode styles, which bring a frame. -/
structure Window where
  hWnd : HWND
  left : Int
  top : Int
  width : Int
  height : Int
  visible : Bool
  editModeStyles : Bool
  editModeFrame : Frame
deriving DecidableEq, Repr

namespace Window

def frame (window : Window) : Frame :=
  if window.editModeStyles then window.editModeFrame else Frame.none

def cliWidth (window : Window) : Int := window.width - (window.frame.left + window.frame.right)

def cliHeight (window : Window) : Int := window.height - (window.frame.top + window.frame.bottom)

def moveTo (window : Window) (x y : Int) : Window := { window with left := x, top := y }

def setSize (window : Window) (newWidth newHeight : Int) : Window :=
  { window with width := newWidth, height := newHeight }

def setPos (window : Window) (x y width height : Int) : Window :=
  { window with left := x, top := y, width := width, height := height }

def setWidth (window : Window) (newWidth : Int) : Window := { window with width := newWidth }

def setHeight (window : Window) (newHeight : Int) : Window := { window with height := newHeight }

def showWindow (window : Window) : Window := { window with visible := true }

def hideWindow (window : Window) : Window := { window with visible := false }

end Window

structure MiniView where
  graphicsCaptureMirror : Mirror
  hSource : HWND
  settingWindow : Bool
  editMode : Bool
  hideWhenSourceOnTop : Bool
  hiddenBySourceOnTop : Bool
  hiddenByParent : Bool
  isGdiCompatible : Bool
  isGraphicsCaptureCompatible : Bool
  isFrozen : Bool
  lockRatio : Bool
  lastUserSetCliWidth : Int
  lastUserSetCliHeight : Int
  lastCliWidthFixedTo : Int
  lastCliHeightFixedTo : Int
  clipped : Bool
  rcClip : Rect
  internallyClipped : Bool
  rcInternalClip : Rect
  sourceSize : Size
  window : Window
deriving DecidableEq, Repr

namespace MiniView

def init (user : MiniViewUser) : MiniView where
  graphicsCaptureMirror := Mirror.init
  hSource := 0
  settingWindow := true
  editMode := true
  hideWhenSourceOnTop := user.defaultHideWhenSourceOnTop
  hiddenBySourceOnTop := true
  hiddenByParent := false
  isGdiCompatible := false
  isGraphicsCaptureCompatible := false
  isFrozen := false
  lockRatio := user.defaultLockSizeRatio
  lastUserSetCliWidth := 0
  lastUserSetCliHeight := 0
  lastCliWidthFixedTo := 0
  lastCliHeightFixedTo := 0
  clipped := false
  rcClip := Rect.empty
  internallyClipped := false
  rcInternalClip := Rect.empty
  sourceSize := ⟨0, 0⟩
  window := ⟨0, 0, 0, 0, 0, false, false, Frame.none⟩

def getClientScreenTopLeft (view : MiniView) (desktop : Desktop) : Int × Int :=
  (desktop.overlayLeft + view.window.left + view.window.frame.left,
    desktop.overlayTop + view.window.top + view.window.frame.top)

def getBorderSize (view : MiniView) : Int × Int :=
  (view.window.width - view.window.cliWidth, view.window.height - view.window.cliHeight)

/-- The window rectangle is in screen coordinates before `ClientToScreen` of the parent is applied
to it. -/
def getTopLeftBorderSize (view : MiniView) (desktop : Desktop) : Int × Int :=
  let winLeft := desktop.overlayLeft + view.window.left
  let winTop := desktop.overlayTop + view.window.top
  let cliTopLeft := view.getClientScreenTopLeft desktop
  (cliTopLeft.1 - (desktop.overlayLeft + winLeft), cliTopLeft.2 - (desktop.overlayTop + winTop))

def setEditMode (view : MiniView) (desktop : Desktop) (newStatus : Bool) : MiniView :=
  let cliWidth := view.window.cliWidth
  let cliHeight := view.window.cliHeight
  let old := view.getClientScreenTopLeft desktop
  let styled := { view.window with editModeStyles := newStatus }
  let changed := { view with
    editMode := newStatus
    window := if newStatus then styled.showWindow else styled }
  let new := changed.getClientScreenTopLeft desktop
  let frame := changed.window.frame
  { changed with
    window := changed.window.setPos
      (changed.window.left + (old.1 - new.1)) (changed.window.top + (old.2 - new.2))
      (cliWidth + (frame.left + frame.right)) (cliHeight + (frame.top + frame.bottom)) }

/-- `CreateThis` once the class is registered and the window exists. -/
def createThis (view : MiniView) (hWnd sourceHandle : HWND) (desktop : Desktop) (xc yc : Int)
    (editModeFrame : Frame) : MiniView :=
  let rcClip := desktop.getClientRect view.rcClip
  let initWidth := rcClip.width.tdiv 6
  let initHeight := rcClip.height.tdiv 6
  let created := { view with
    hSource := sourceHandle
    rcClip := rcClip
    window := ⟨hWnd, xc - initWidth.tdiv 2, yc - initHeight.tdiv 2, initWidth, initHeight,
      true, false, editModeFrame⟩ }
  created.setEditMode desktop true

def shownWidth (view : MiniView) (desktop : Desktop) : Int :=
  if view.clipped then view.rcClip.right - view.rcClip.left else desktop.sourceWidth

def shownHeight (view : MiniView) (desktop : Desktop) : Int :=
  if view.clipped then view.rcClip.bottom - view.rcClip.top else desktop.sourceHeight

theorem shownWidth_congr {view other : MiniView} (clipped : other.clipped = view.clipped)
    (rcClip : other.rcClip = view.rcClip) (desktop : Desktop) :
    other.shownWidth desktop = view.shownWidth desktop := by
  rw [shownWidth, shownWidth, clipped, rcClip]

theorem shownHeight_congr {view other : MiniView} (clipped : other.clipped = view.clipped)
    (rcClip : other.rcClip = view.rcClip) (desktop : Desktop) :
    other.shownHeight desktop = view.shownHeight desktop := by
  rw [shownHeight, shownHeight, clipped, rcClip]

def fittedSize (guideMiniWidth guideMiniHeight sourceWidth sourceHeight : Int) : Int × Int :=
  if sourceWidth ≤ guideMiniWidth ∧ sourceHeight ≤ guideMiniHeight then
    if sourceWidth * guideMiniHeight > sourceHeight * guideMiniWidth ∧ sourceWidth > 0 then
      (guideMiniWidth, roundedQuotient (guideMiniWidth * sourceHeight) sourceWidth)
    else if sourceHeight * guideMiniWidth > sourceWidth * guideMiniHeight ∧ sourceHeight > 0 then
      (roundedQuotient (guideMiniHeight * sourceWidth) sourceHeight, guideMiniHeight)
    else (guideMiniWidth, guideMiniHeight)
  else if sourceWidth > guideMiniWidth ∧ sourceHeight ≤ guideMiniHeight ∧ sourceWidth > 0 then
    (guideMiniWidth, roundedQuotient (guideMiniWidth * sourceHeight) sourceWidth)
  else if sourceWidth ≤ guideMiniWidth ∧ sourceHeight > guideMiniHeight ∧ sourceHeight > 0 then
    (roundedQuotient (guideMiniHeight * sourceWidth) sourceHeight, guideMiniHeight)
  else if sourceWidth > guideMiniWidth ∧ sourceHeight > guideMiniHeight then
    if guideMiniWidth * sourceHeight > guideMiniHeight * sourceWidth ∧ sourceHeight > 0 then
      (roundedQuotient (guideMiniHeight * sourceWidth) sourceHeight, guideMiniHeight)
    else if guideMiniHeight * sourceWidth > guideMiniWidth * sourceHeight ∧ sourceWidth > 0 then
      (guideMiniWidth, roundedQuotient (guideMiniWidth * sourceHeight) sourceWidth)
    else (guideMiniWidth, guideMiniHeight)
  else (guideMiniWidth, guideMiniHeight)

def centred (guideMiniWidth guideMiniHeight cw ch : Int) : Rect :=
  let left := roundedQuotient (guideMiniWidth - cw).natAbs 2
  let top := roundedQuotient (guideMiniHeight - ch).natAbs 2
  ⟨left, top, left + cw, top + ch⟩

def fixRatio (view : MiniView) (desktop : Desktop) : MiniView :=
  if view.lockRatio && !view.settingWindow then
    let guideMiniWidth := view.lastUserSetCliWidth
    let guideMiniHeight := view.lastUserSetCliHeight
    let sourceWidth := view.shownWidth desktop
    let sourceHeight := view.shownHeight desktop
    if sourceWidth ≠ view.lastCliWidthFixedTo ∨ sourceHeight ≠ view.lastCliHeightFixedTo then
      let size := fittedSize guideMiniWidth guideMiniHeight sourceWidth sourceHeight
      let fitted :=
        if size.1 ≠ guideMiniWidth ∨ size.2 ≠ guideMiniHeight then
          { view with
            internallyClipped := true
            rcInternalClip := centred guideMiniWidth guideMiniHeight size.1 size.2 }
        else { view with internallyClipped := false }
      { fitted with lastCliWidthFixedTo := sourceWidth, lastCliHeightFixedTo := sourceHeight }
    else view
  else view

def clearFixRatioCache (view : MiniView) : MiniView :=
  { view with internallyClipped := false, lastCliWidthFixedTo := 0, lastCliHeightFixedTo := 0 }

def forwardClip (view : MiniView) (desktop : Desktop) : Mirror :=
  view.graphicsCaptureMirror.setClip view.rcClip.left view.rcClip.top view.rcClip.right
    view.rcClip.bottom desktop.sourceWidth desktop.sourceHeight desktop.captureItem

def matchedWindow (view : MiniView) (desktop : Desktop) (matchPos matchSize : Bool) : Window :=
  let border := view.getBorderSize
  let topLeftBorder := view.getTopLeftBorderSize desktop
  let left := desktop.sourceLeft - topLeftBorder.1 + if view.clipped then view.rcClip.left else 0
  let top := desktop.sourceTop - topLeftBorder.2 + if view.clipped then view.rcClip.top else 0
  let width := view.shownWidth desktop + border.1
  let height := view.shownHeight desktop + border.2
  if matchPos && matchSize then view.window.setPos left top width height
  else if matchPos then view.window.moveTo left top
  else if matchSize then view.window.setSize width height
  else view.window

def recreateMirror (view : MiniView) (desktop : Desktop) : MiniView :=
  if view.clipped && view.isGraphicsCaptureCompatible then
    let recreated := { view with
      graphicsCaptureMirror := view.graphicsCaptureMirror.createMirror view.window.hWnd
        view.hSource desktop.captureItem }
    { recreated with graphicsCaptureMirror := recreated.forwardClip desktop }
  else view

def matchSource (view : MiniView) (desktop : Desktop) (matchPos matchSize : Bool) : MiniView :=
  let window := view.matchedWindow desktop matchPos matchSize
  let matched :=
    if matchSize then
      { view with
        window := window
        internallyClipped := false
        lastUserSetCliWidth := window.cliWidth
        lastUserSetCliHeight := window.cliHeight }
    else { view with window := window }
  matched.recreateMirror desktop

/-- The two defaults are asked for whenever a view is dropped or clipped. -/
def matchSourceByDefault (view : MiniView) (user : MiniViewUser) (desktop : Desktop) : MiniView :=
  if user.defaultMatchSourcePosition || user.defaultMatchSourceSize then
    view.matchSource desktop user.defaultMatchSourcePosition user.defaultMatchSourceSize
  else view

def setClip (view : MiniView) (user : MiniViewUser) (desktop : Desktop) (isClipped : Bool)
    (left top right bottom : Int) : MiniView :=
  if isClipped then
    let chosen := { view with clipped := true, rcClip := ⟨left, top, right, bottom⟩ }
    let fixed := (chosen.matchSourceByDefault user desktop).fixRatio desktop
    if fixed.isGraphicsCaptureCompatible then
      { fixed with graphicsCaptureMirror := fixed.forwardClip desktop }
    else fixed
  else { view with clipped := false }

def restoreSize (view : MiniView) : MiniView :=
  let border := view.getBorderSize
  let widened := view.window.setWidth (view.lastUserSetCliWidth + border.1)
  { view with window := widened.setHeight (view.lastUserSetCliHeight + border.2) }

def setClipRegion (view : MiniView) : MiniView := view.restoreSize

def clearClipRegion (view : MiniView) (desktop : Desktop) : MiniView :=
  let cleared :=
    if view.isGraphicsCaptureCompatible then
      { view with
        graphicsCaptureMirror := view.graphicsCaptureMirror.clearClip desktop.captureItem }
    else view
  let restored := cleared.restoreSize
  let unclipped := { restored with
    clipped := false
    rcClip := desktop.getClientRect restored.rcClip }
  unclipped.fixRatio desktop

/-- A new edge is clamped to the source, and an edge stays as it is if there is no source. -/
def clampedEdge (last new old : Int) (source : Option SourceWindow) : Int :=
  if source.isSome then
    if new < 0 then 0
    else if new > last then last
    else new
  else old

def adjustClipTop (view : MiniView) (desktop : Desktop) (newTop : Int) : MiniView :=
  let view := view.clearFixRatioCache
  { view with rcClip.top :=
      clampedEdge desktop.sourceHeight newTop view.rcClip.top desktop.source }

def adjustClipLeft (view : MiniView) (desktop : Desktop) (newLeft : Int) : MiniView :=
  let view := view.clearFixRatioCache
  { view with rcClip.left :=
      clampedEdge desktop.sourceWidth newLeft view.rcClip.left desktop.source }

def adjustClipRight (view : MiniView) (desktop : Desktop) (newRight : Int) : MiniView :=
  let view := view.clearFixRatioCache
  { view with rcClip.right :=
      clampedEdge desktop.sourceWidth newRight view.rcClip.right desktop.source }

def adjustClipBottom (view : MiniView) (desktop : Desktop) (newBottom : Int) : MiniView :=
  let view := view.clearFixRatioCache
  { view with rcClip.bottom :=
      clampedEdge desktop.sourceHeight newBottom view.rcClip.bottom desktop.source }

def adjustWindowLeft (view : MiniView) (newLeft : Int) : MiniView :=
  { view with window := view.window.moveTo newLeft view.window.top }

def adjustWindowTop (view : MiniView) (newTop : Int) : MiniView :=
  { view with window := view.window.moveTo view.window.left newTop }

def setCliSize (view : MiniView) (newCliWidth newCliHeight : Int) : MiniView :=
  let border := view.getBorderSize
  { view with
    lastUserSetCliWidth := newCliWidth
    lastUserSetCliHeight := newCliHeight
    window := view.window.setSize (newCliWidth + border.1) (newCliHeight + border.2) }

def adjustCliWidth (view : MiniView) (desktop : Desktop) (newCliWidth : Int) : MiniView :=
  if view.lockRatio then
    let fixed := { view with
      lastCliWidthFixedTo := view.shownWidth desktop
      lastCliHeightFixedTo := view.shownHeight desktop }
    fixed.setCliSize newCliWidth
      (roundedQuotient (newCliWidth * fixed.lastCliHeightFixedTo) fixed.lastCliWidthFixedTo)
  else view.setCliSize newCliWidth view.window.cliHeight

def adjustCliHeight (view : MiniView) (desktop : Desktop) (newCliHeight : Int) : MiniView :=
  if view.lockRatio then
    let fixed := { view with
      lastCliWidthFixedTo := view.shownWidth desktop
      lastCliHeightFixedTo := view.shownHeight desktop }
    fixed.setCliSize
      (roundedQuotient (newCliHeight * fixed.lastCliWidthFixedTo) fixed.lastCliHeightFixedTo)
      newCliHeight
  else view.setCliSize view.window.cliWidth newCliHeight

def checkHideBySourceOnTop (view : MiniView) (isSourceOnTop : Bool) : MiniView :=
  if view.hideWhenSourceOnTop && view.hiddenBySourceOnTop != isSourceOnTop then
    let flipped := { view with hiddenBySourceOnTop := !view.hiddenBySourceOnTop }
    if flipped.hiddenBySourceOnTop && !flipped.editMode then
      { flipped with window := flipped.window.hideWindow }
    else if !flipped.hiddenBySourceOnTop && !flipped.hiddenByParent then
      { flipped with window := flipped.window.showWindow }
    else flipped
  else view

/-- The half-second check. A view whose source is gone only posts itself a close message. -/
def validateProperties (view : MiniView) (desktop : Desktop) : MiniView :=
  if desktop.source.isSome then
    let checked := view.checkHideBySourceOnTop desktop.sourceOnTop
    if checked.sourceSize.cx ≠ desktop.sourceWidth ∨
        checked.sourceSize.cy ≠ desktop.sourceHeight then
      let fixed := { checked with
        sourceSize := ⟨desktop.sourceWidth, desktop.sourceHeight⟩ }.fixRatio desktop
      if fixed.isGraphicsCaptureCompatible then
        { fixed with
          graphicsCaptureMirror := fixed.graphicsCaptureMirror.handleSourceSizeChange
            desktop.sourceWidth desktop.sourceHeight desktop.captureItem }
      else fixed
    else checked
  else view

def showByParentRequest (view : MiniView) : MiniView :=
  { view with
    window := if view.hiddenByParent && !view.hiddenBySourceOnTop then view.window.showWindow
      else view.window
    hiddenByParent := false }

def hideByParentRequest (view : MiniView) : MiniView :=
  { view with
    window := if !view.hiddenByParent then view.window.hideWindow else view.window
    hiddenByParent := true }

def toggleHideWhenSourceOnTop (view : MiniView) (isSourceOnTop : Bool) : MiniView :=
  let shown :=
    if view.hideWhenSourceOnTop && view.hiddenBySourceOnTop then
      { view with window := view.window.showWindow, hiddenBySourceOnTop := false }
    else view
  { shown with hideWhenSourceOnTop := !shown.hideWhenSourceOnTop }.checkHideBySourceOnTop
    isSourceOnTop

def toggleLockRatio (view : MiniView) (desktop : Desktop) : MiniView :=
  { view with lockRatio := !view.lockRatio }.fixRatio desktop

/-- `WMSZ_*`, the edge or corner that was grabbed -/
inductive SizingEdge where
  | left
  | right
  | top
  | topLeft
  | topRight
  | bottom
  | bottomLeft
  | bottomRight
deriving DecidableEq, Repr

def lockedSizing (edge : SizingEdge) (rect : Rect)
    (borderWidth borderHeight sourceWidth sourceHeight : Int) : Rect :=
  let miniWidth := rect.right - rect.left - borderWidth
  let miniHeight := rect.bottom - rect.top - borderHeight
  if edge = .bottom ∨ edge = .top ∨
      (miniWidth * sourceHeight > sourceWidth * miniHeight ∧ edge ≠ .left ∧ edge ≠ .right) then
    if edge = .bottomLeft ∨ edge = .topLeft then
      { rect with left := rect.right - roundedQuotient (miniHeight * sourceWidth) sourceHeight -
          borderWidth }
    else
      { rect with right := rect.left + roundedQuotient (miniHeight * sourceWidth) sourceHeight +
          borderWidth }
  else if edge = .topRight ∨ edge = .topLeft then
    { rect with top := rect.bottom - roundedQuotient (miniWidth * sourceHeight) sourceWidth -
        borderHeight }
  else
    { rect with bottom := rect.top + roundedQuotient (miniWidth * sourceHeight) sourceWidth +
        borderHeight }

def doSizing (view : MiniView) (desktop : Desktop) (edge : SizingEdge) (rect : Rect) :
    MiniView × Rect :=
  let cleared := view.clearFixRatioCache
  let border := cleared.getBorderSize
  let sourceWidth := cleared.shownWidth desktop
  let sourceHeight := cleared.shownHeight desktop
  let locks := !cleared.settingWindow && cleared.lockRatio
  let sized := if locks then lockedSizing edge rect border.1 border.2 sourceWidth sourceHeight
    else rect
  let keyed := if locks then
      { cleared with lastCliWidthFixedTo := sourceWidth, lastCliHeightFixedTo := sourceHeight }
    else cleared
  ({ keyed with
      lastUserSetCliWidth := sized.right - sized.left - border.1
      lastUserSetCliHeight := sized.bottom - sized.top - border.2 }, sized)

def sizeFinished (view : MiniView) (desktop : Desktop) : MiniView :=
  if view.clipped && view.isGraphicsCaptureCompatible then
    { view with graphicsCaptureMirror := view.forwardClip desktop }
  else view

/-- The window a blank MiniView is dropped on. -/
structure DropTarget where
  newHandle : HWND
  preferGraphicsCapture : Bool
  gdiImageValid : Bool
deriving DecidableEq, Repr

/-- The part of `ExitSizeMove` that ends the drag of a blank MiniView. -/
def drop (view : MiniView) (user : MiniViewUser) (desktop : Desktop) (target : DropTarget) :
    MiniView :=
  let replicated :=
    if !target.preferGraphicsCapture && target.gdiImageValid then
      { view with
        window := view.window.hideWindow
        isGdiCompatible := true
        isGraphicsCaptureCompatible := false
        hSource := target.newHandle }
    else
      let mirror := view.graphicsCaptureMirror.createMirror view.window.hWnd target.newHandle
        desktop.captureItem
      { view with
        window := view.window.hideWindow
        graphicsCaptureMirror := mirror
        isGraphicsCaptureCompatible := true
        isFrozen := false
        hSource := mirror.hSource }
  let rcClip := desktop.getClientRect replicated.rcClip
  let dropped := { replicated with
    rcClip := rcClip
    sourceSize := ⟨rcClip.width, rcClip.height⟩
    lastUserSetCliWidth := replicated.window.cliWidth
    lastUserSetCliHeight := replicated.window.cliHeight
    settingWindow := false
    window := replicated.window.showWindow }
  dropped.matchSourceByDefault user desktop

def exitSizeMove (view : MiniView) (user : MiniViewUser) (desktop : Desktop)
    (target : DropTarget) : MiniView :=
  if view.settingWindow then view.drop user desktop target else view.sizeFinished desktop

inductive Op where
  | setClip (isClipped : Bool) (rect : Rect)
  | clearClipRegion
  | adjustClipTop (newTop : Int)
  | adjustClipLeft (newLeft : Int)
  | adjustClipRight (newRight : Int)
  | adjustClipBottom (newBottom : Int)
  | adjustWindowLeft (newLeft : Int)
  | adjustWindowTop (newTop : Int)
  | adjustCliWidth (newCliWidth : Int)
  | adjustCliHeight (newCliHeight : Int)
  | setEditMode (newStatus : Bool)
  | validateProperties
  | showByParentRequest
  | hideByParentRequest
  | toggleHideWhenSourceOnTop
  | toggleLockRatio
  | matchSource (matchPos matchSize : Bool)
  | doSizing (edge : SizingEdge) (rect : Rect)
  | sizeFinished
  | frameArrived (contentSize : SizeInt32)
deriving DecidableEq, Repr

structure Call where
  user : MiniViewUser
  desktop : Desktop
  op : Op
deriving DecidableEq, Repr

def IsOwn (call : Call) : Prop :=
  call.op ≠ .showByParentRequest ∧ call.op ≠ .hideByParentRequest

instance (call : Call) : Decidable (IsOwn call) := inferInstanceAs (Decidable (_ ∧ _))

/-- `WM_SIZING`, after which the system gives the window the rectangle it got back. -/
def sizing (view : MiniView) (desktop : Desktop) (edge : SizingEdge) (rect : Rect) : MiniView :=
  let answer := view.doSizing desktop edge rect
  let left := answer.2.left - desktop.overlayLeft
  let top := answer.2.top - desktop.overlayTop
  { answer.1 with
    window := answer.1.window.setPos left top answer.2.width answer.2.height }

def frameArrived (view : MiniView) (contentSize : SizeInt32) : Option MiniView :=
  (view.graphicsCaptureMirror.step (.frameArrived contentSize)).map fun mirror =>
    { view with graphicsCaptureMirror := mirror }

def step (view : MiniView) (call : Call) : Option MiniView :=
  match call.op with
  | .setClip isClipped rect =>
      some (view.setClip call.user call.desktop isClipped rect.left rect.top rect.right rect.bottom)
  | .clearClipRegion => some (view.clearClipRegion call.desktop)
  | .adjustClipTop newTop => some (view.adjustClipTop call.desktop newTop)
  | .adjustClipLeft newLeft => some (view.adjustClipLeft call.desktop newLeft)
  | .adjustClipRight newRight => some (view.adjustClipRight call.desktop newRight)
  | .adjustClipBottom newBottom => some (view.adjustClipBottom call.desktop newBottom)
  | .adjustWindowLeft newLeft => some (view.adjustWindowLeft newLeft)
  | .adjustWindowTop newTop => some (view.adjustWindowTop newTop)
  | .adjustCliWidth newCliWidth => some (view.adjustCliWidth call.desktop newCliWidth)
  | .adjustCliHeight newCliHeight => some (view.adjustCliHeight call.desktop newCliHeight)
  | .setEditMode newStatus => some (view.setEditMode call.desktop newStatus)
  | .validateProperties => some (view.validateProperties call.desktop)
  | .showByParentRequest => some view.showByParentRequest
  | .hideByParentRequest => some view.hideByParentRequest
  | .toggleHideWhenSourceOnTop => some (view.toggleHideWhenSourceOnTop call.desktop.sourceOnTop)
  | .toggleLockRatio => some (view.toggleLockRatio call.desktop)
  | .matchSource matchPos matchSize => some (view.matchSource call.desktop matchPos matchSize)
  | .doSizing edge rect => some (view.sizing call.desktop edge rect)
  | .sizeFinished => some (view.sizeFinished call.desktop)
  | .frameArrived contentSize => view.frameArrived contentSize

end MiniView

end LeanMiniViews
