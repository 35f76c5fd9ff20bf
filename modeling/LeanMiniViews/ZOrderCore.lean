import LeanMiniViews.OverlayCore
import Mathlib.Data.List.Nodup

/-!
The overlay among the top-level windows of the desktop. The system keeps the topmost windows
above the others. Between two messages to the overlay other windows may come, go and be
reordered, but the overlay keeps its place if it is at the bottom, and its topmost style.
-/

namespace LeanMiniViews

structure TopLevelWindow where
  hWnd : HWND
  topmost : Bool
deriving DecidableEq, Repr

/-- From the top to the bottom. -/
structure ZOrder where
  windows : List TopLevelWindow
  distinct : (windows.map TopLevelWindow.hWnd).Nodup
  banded : windows.Pairwise fun above below => below.topmost = true → above.topmost = true

namespace ZOrder

def others (zOrder : ZOrder) (hWnd : HWND) : List TopLevelWindow :=
  zOrder.windows.filter fun window => window.hWnd != hWnd

theorem others_sublist (zOrder : ZOrder) (hWnd : HWND) :
    (zOrder.others hWnd).Sublist zOrder.windows :=
  List.filter_sublist

theorem others_distinct (zOrder : ZOrder) (hWnd : HWND) :
    ((zOrder.others hWnd).map TopLevelWindow.hWnd).Nodup :=
  zOrder.distinct.sublist ((zOrder.others_sublist hWnd).map _)

theorem not_mem_others (zOrder : ZOrder) (hWnd : HWND) :
    hWnd ∉ (zOrder.others hWnd).map TopLevelWindow.hWnd := by
  simp [others]

/-- `SetWindowPos(hWnd, HWND_TOPMOST, ..)` -/
def toTopmost (zOrder : ZOrder) (hWnd : HWND) : ZOrder where
  windows := ⟨hWnd, true⟩ :: zOrder.others hWnd
  distinct := List.nodup_cons.mpr ⟨zOrder.not_mem_others hWnd, zOrder.others_distinct hWnd⟩
  banded := List.pairwise_cons.mpr
    ⟨fun _ _ _ => rfl, zOrder.banded.sublist (zOrder.others_sublist hWnd)⟩

/-- `SetWindowPos(hWnd, HWND_BOTTOM, ..)`, which takes the topmost style away. -/
def toBottom (zOrder : ZOrder) (hWnd : HWND) : ZOrder where
  windows := zOrder.others hWnd ++ [⟨hWnd, false⟩]
  distinct := by
    rw [List.map_append, List.nodup_append]
    refine ⟨zOrder.others_distinct hWnd, List.nodup_singleton _, ?_⟩
    intro other member own isOwn same
    have isOverlay : own = hWnd := List.mem_singleton.mp isOwn
    rw [same, isOverlay] at member
    exact zOrder.not_mem_others hWnd member
  banded := by
    refine List.pairwise_append.mpr
      ⟨zOrder.banded.sublist (zOrder.others_sublist hWnd), List.pairwise_singleton _ _, ?_⟩
    rintro above _ below isOwn topmost
    obtain rfl := List.mem_singleton.mp isOwn
    cases topmost

end ZOrder

/-- The window of the overlay has no handle before it is created. -/
structure Screen where
  overlay : MiniViews
  hWnd : HWND
  windowRect : Rect
  zOrder : ZOrder

namespace Screen

def init (defaultOpacity : UInt8) (zOrder : ZOrder) : Screen :=
  ⟨MiniViews.init defaultOpacity, 0, Rect.empty, zOrder⟩

def AtBottom (screen : Screen) : Prop :=
  ∃ window ∈ screen.zOrder.windows.getLast?, window.hWnd = screen.hWnd

instance (screen : Screen) : Decidable screen.AtBottom :=
  inferInstanceAs (Decidable (∃ window ∈ screen.zOrder.windows.getLast?,
    window.hWnd = screen.hWnd))

def IsTopmost (screen : Screen) : Prop :=
  ∃ window ∈ screen.zOrder.windows, window.hWnd = screen.hWnd ∧ window.topmost = true

instance (screen : Screen) : Decidable screen.IsTopmost :=
  inferInstanceAs (Decidable (∃ window ∈ screen.zOrder.windows,
    window.hWnd = screen.hWnd ∧ window.topmost = true))

/-- A window of another program that is not topmost. -/
def HasOrdinary (screen : Screen) : Prop :=
  ∃ window ∈ screen.zOrder.windows, window.hWnd ≠ screen.hWnd ∧ window.topmost = false

instance (screen : Screen) : Decidable screen.HasOrdinary :=
  inferInstanceAs (Decidable (∃ window ∈ screen.zOrder.windows,
    window.hWnd ≠ screen.hWnd ∧ window.topmost = false))

def rest (screen : Screen) : Screen :=
  if screen.hWnd = 0 then screen
  else { screen with zOrder := screen.zOrder.toBottom screen.hWnd }

/-- The loop of `FixPosition`, from the top to the overlay or to an ordinary window. -/
def correctZOrder (hWnd : HWND) : List TopLevelWindow → Bool
  | [] => true
  | topWindow :: rest =>
      if topWindow.hWnd = hWnd then true
      else if topWindow.topmost then correctZOrder hWnd rest
      else false

def misplaced (screen : Screen) (virtualScreen : Rect) : Bool :=
  !correctZOrder screen.hWnd screen.zOrder.windows || screen.windowRect != virtualScreen

/-- Nothing is done to a window that does not exist. -/
def fixPosition (screen : Screen) (virtualScreen : Rect) : Screen :=
  if screen.hWnd ≠ 0 ∧ screen.misplaced virtualScreen then
    { screen with
      windowRect := virtualScreen
      zOrder := screen.zOrder.toTopmost screen.hWnd }
  else screen

def wake (screen : Screen) (virtualScreen : Rect) : Screen := screen.fixPosition virtualScreen

def createThis (screen : Screen) (handle : HWND) (windowRect : Rect) : Screen :=
  if screen.hWnd = 0 ∧ handle ≠ 0 then
    { screen with
      hWnd := handle
      windowRect := windowRect
      zOrder := screen.zOrder.toTopmost handle }.rest
  else screen

/-- The new view, and what the system answers while it is made. -/
structure Addition where
  virtualScreen : Rect
  user : MiniViewUser
  desktop : Desktop
  desktopWindow : HWND
  xc : Int
  yc : Int
  editModeFrame : Frame
  creation : Creation

inductive Event where
  | createThis (handle : HWND) (windowRect : Rect)
  | addMiniView (addition : Addition)
  | closeMiniView (hMiniView : HWND)
  | clearMiniViews
  | halfSecond (virtualScreen : Rect)
  | otherWindows (zOrder : ZOrder)

/-- What other programs can do meanwhile. -/
def Surrounds (screen : Screen) (zOrder : ZOrder) : Prop :=
  let changed := { screen with zOrder := zOrder }
  changed.HasOrdinary ∧ (screen.AtBottom → changed.AtBottom) ∧
    (screen.IsTopmost → changed.IsTopmost)

instance (screen : Screen) (zOrder : ZOrder) : Decidable (screen.Surrounds zOrder) :=
  inferInstanceAs (Decidable (_ ∧ (_ → _) ∧ (_ → _)))

def applied (screen : Screen) (event : MiniViews.Event) : Option Screen :=
  (screen.overlay.step event).map fun overlay => { screen with overlay := overlay }

/-- A handle is not given out while a window has it, and a child window needs a parent. -/
def step (screen : Screen) : Event → Option Screen
  | .createThis handle windowRect =>
      if ∀ window ∈ screen.zOrder.windows, window.hWnd ≠ handle then
        some (screen.createThis handle windowRect)
      else none
  | .addMiniView addition =>
      if screen.hWnd = 0 ∧ addition.creation.handle ≠ 0 then none
      else
        (screen.wake addition.virtualScreen).applied
          (.addMiniView addition.user addition.desktop addition.desktopWindow addition.xc
            addition.yc addition.editModeFrame addition.creation)
  | .closeMiniView hMiniView =>
      (screen.applied (.closeMiniView hMiniView)).map fun closed =>
        if closed.overlay.currMiniViews.isEmpty then closed.rest else closed
  | .clearMiniViews => screen.applied .clearMiniViews
  | .halfSecond virtualScreen => some (screen.fixPosition virtualScreen)
  | .otherWindows zOrder =>
      if screen.Surrounds zOrder then some { screen with zOrder := zOrder } else none

end Screen

end LeanMiniViews
