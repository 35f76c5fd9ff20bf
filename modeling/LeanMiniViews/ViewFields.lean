import LeanMiniViews.ClipSession
import LeanMiniViews.NumberFields

/-!
What the Views tab shows of the view it has selected, and how its boxes change the view. Each
command of the tab is a message to the overlay, after which the boxes are filled anew.
-/

namespace LeanMiniViews

/-- The edit boxes of the tab. -/
inductive ViewsEdit where
  | editWindowXPos
  | editWindowYPos
  | editWindowWidth
  | editWindowHeight
  | editClipLeft
  | editClipTop
  | editClipRight
  | editClipBottom
deriving DecidableEq, Repr

def ViewsEdit.isClip : ViewsEdit → Bool
  | editClipLeft => true
  | editClipTop => true
  | editClipRight => true
  | editClipBottom => true
  | editWindowXPos => false
  | editWindowYPos => false
  | editWindowWidth => false
  | editWindowHeight => false

inductive ViewsCheck where
  | checkClipped
  | checkLockSizeRatio
  | checkHideWhenSourceOnTop
deriving DecidableEq, Repr

inductive ViewsButton where
  | buttonMatchSourcePos
  | buttonMatchSourceSize
  | buttonSetClipArea
  | checkClipped
  | checkLockSizeRatio
  | checkHideWhenSourceOnTop
deriving DecidableEq, Repr

namespace MiniView

/-- What the box shows. -/
def editNum (view : MiniView) : ViewsEdit → Int
  | .editWindowXPos => view.window.left
  | .editWindowYPos => view.window.top
  | .editWindowWidth => view.window.cliWidth
  | .editWindowHeight => view.window.cliHeight
  | .editClipLeft => view.rcClip.left
  | .editClipTop => view.rcClip.top
  | .editClipRight => view.rcClip.right
  | .editClipBottom => view.rcClip.bottom

def isChecked (view : MiniView) : ViewsCheck → Bool
  | .checkClipped => view.clipped
  | .checkLockSizeRatio => view.lockRatio
  | .checkHideWhenSourceOnTop => view.hideWhenSourceOnTop

end MiniView

/-- What a number in the box is used for when the box loses the focus. -/
def ViewsEdit.adjusts : ViewsEdit → Int → MiniView.Op
  | editWindowXPos, num => .adjustWindowLeft num
  | editWindowYPos, num => .adjustWindowTop num
  | editWindowWidth, num => .adjustCliWidth num
  | editWindowHeight, num => .adjustCliHeight num
  | editClipLeft, num => .adjustClipLeft num
  | editClipTop, num => .adjustClipTop num
  | editClipRight, num => .adjustClipRight num
  | editClipBottom, num => .adjustClipBottom num

/-- `enabled` is what `EnableEditing` and `DisableEditing` set, of the clip boxes too until the
refresh is done with them. -/
structure ViewFields where
  edits : ViewsEdit → EditControl
  checks : ViewsCheck → Bool
  enabled : Bool
  clipEnabled : Bool

namespace ViewFields

def disableEditing (fields : ViewFields) : ViewFields where
  edits := fun idFrom => (fields.edits idFrom).setText []
  checks := fun _ => false
  enabled := false
  clipEnabled := false

/-- `RefreshWindow` below the tree. -/
def refresh (fields : ViewFields) (currMiniView : Option MiniView) : ViewFields :=
  match currMiniView with
  | some view =>
      { edits := fun idFrom => (fields.edits idFrom).setEditNum (view.editNum idFrom)
        checks := view.isChecked
        enabled := true
        clipEnabled := view.clipped }
  | none => fields.disableEditing

def isEnabled (fields : ViewFields) (idFrom : ViewsEdit) : Bool :=
  fields.enabled && (!idFrom.isClip || fields.clipEnabled)

def setText (fields : ViewFields) (idFrom : ViewsEdit) (text : EditControl) : ViewFields :=
  { fields with edits := Function.update fields.edits idFrom text }

end ViewFields

/-- The overlay with the selection and the boxes of the Views tab. -/
structure ViewsTab where
  miniViews : MiniViews
  currMiniView : Option HWND
  fields : ViewFields

namespace ViewsTab

def shownView (tab : ViewsTab) : Option MiniView := tab.currMiniView.bind tab.miniViews.lookup

def refreshFields (tab : ViewsTab) : ViewsTab :=
  { tab with fields := tab.fields.refresh tab.shownView }

/-- A command of the tab: a message to the overlay and a refresh. -/
def perform (tab : ViewsTab) (event : MiniViews.Event) : ViewsTab :=
  { tab with miniViews := (tab.miniViews.step event).getD tab.miniViews }.refreshFields

def notifyEditFocusLost (tab : ViewsTab) (user : MiniViewUser) (desktop : Desktop)
    (idFrom : ViewsEdit) : ViewsTab :=
  match tab.currMiniView with
  | some currMiniView =>
      let num := (tab.fields.edits idFrom).getEditNum IntegralType.int 0
      if num.1 then tab.perform (.call currMiniView ⟨user, desktop, idFrom.adjusts num.2⟩)
      else tab.refreshFields
  | none => tab

def buttonEvent (currMiniView : HWND) (user : MiniViewUser) (desktop : Desktop)
    (creation : Creation) : ViewsButton → MiniViews.Event
  | .buttonMatchSourcePos => .call currMiniView ⟨user, desktop, .matchSource true false⟩
  | .buttonMatchSourceSize => .call currMiniView ⟨user, desktop, .matchSource false true⟩
  | .buttonSetClipArea => .setClipRegion currMiniView desktop creation
  | .checkClipped => .call currMiniView ⟨user, desktop, .clearClipRegion⟩
  | .checkLockSizeRatio => .call currMiniView ⟨user, desktop, .toggleLockRatio⟩
  | .checkHideWhenSourceOnTop => .call currMiniView ⟨user, desktop, .toggleHideWhenSourceOnTop⟩

def notifyButtonClicked (tab : ViewsTab) (user : MiniViewUser) (desktop : Desktop)
    (creation : Creation) (idFrom : ViewsButton) : ViewsTab :=
  match tab.currMiniView with
  | some currMiniView => tab.perform (buttonEvent currMiniView user desktop creation idFrom)
  | none => tab

/-- What is done in the tab. A box that is disabled has no focus to lose; `type` is what was
typed into a box before it lost the focus. -/
inductive Event where
  | leave (idFrom : ViewsEdit)
  | type (idFrom : ViewsEdit) (text : EditControl)
  | click (creation : Creation) (idFrom : ViewsButton)

def step (tab : ViewsTab) (call : MiniViewUser × Desktop × Event) : Option ViewsTab :=
  match call.2.2 with
  | .leave idFrom =>
      if tab.fields.isEnabled idFrom then
        some (tab.notifyEditFocusLost call.1 call.2.1 idFrom)
      else none
  | .type idFrom text =>
      if tab.fields.isEnabled idFrom then
        some ({ tab with fields := tab.fields.setText idFrom text }.notifyEditFocusLost
          call.1 call.2.1 idFrom)
      else none
  | .click creation idFrom =>
      if tab.fields.enabled then
        some (tab.notifyButtonClicked call.1 call.2.1 creation idFrom)
      else none

end ViewsTab

end LeanMiniViews
