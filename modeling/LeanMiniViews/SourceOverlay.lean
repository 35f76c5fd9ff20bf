import LeanMiniViews.MiniViewFrames

/-!
`MatchSource` puts a view over the window it shows. A child window is placed in the client area
of its parent, so the position asked for is relative to the overlay, and the source is where the
screen has it.
-/

namespace LeanMiniViews.MiniView

def clipOffset (view : MiniView) : Int × Int :=
  if view.clipped then (view.rcClip.left, view.rcClip.top) else (0, 0)

/-- Where the shown region of the source is on the screen. -/
def shownTopLeft (view : MiniView) (desktop : Desktop) : Int × Int :=
  (desktop.sourceLeft + view.clipOffset.1, desktop.sourceTop + view.clipOffset.2)

/-- The half of `MatchSource` that places the view. -/
def PlacedOver (view after : MiniView) (desktop : Desktop) (matchPos : Bool) : Prop :=
  if matchPos then after.getClientScreenTopLeft desktop = view.shownTopLeft desktop
  else after.window.left = view.window.left ∧ after.window.top = view.window.top

instance (view after : MiniView) (desktop : Desktop) (matchPos : Bool) :
    Decidable (view.PlacedOver after desktop matchPos) :=
  inferInstanceAs (Decidable (if matchPos then
    after.getClientScreenTopLeft desktop = view.shownTopLeft desktop
    else after.window.left = view.window.left ∧ after.window.top = view.window.top))

/-- The half of `MatchSource` that sizes the view. -/
def SizedOver (view after : MiniView) (desktop : Desktop) (matchSize : Bool) : Prop :=
  if matchSize then
    after.window.cliWidth = view.shownWidth desktop ∧
      after.window.cliHeight = view.shownHeight desktop
  else after.window.width = view.window.width ∧ after.window.height = view.window.height

instance (view after : MiniView) (desktop : Desktop) (matchSize : Bool) :
    Decidable (view.SizedOver after desktop matchSize) :=
  inferInstanceAs (Decidable (if matchSize then
    after.window.cliWidth = view.shownWidth desktop ∧
      after.window.cliHeight = view.shownHeight desktop
    else after.window.width = view.window.width ∧ after.window.height = view.window.height))

@[simp] theorem matchSource_window (view : MiniView) (desktop : Desktop)
    (matchPos matchSize : Bool) :
    (view.matchSource desktop matchPos matchSize).window =
      view.matchedWindow desktop matchPos matchSize := by
  rw [matchSource_eq]

@[simp] theorem matchedWindow_frame (view : MiniView) (desktop : Desktop)
    (matchPos matchSize : Bool) :
    (view.matchedWindow desktop matchPos matchSize).frame = view.window.frame := by
  cases matchPos <;> cases matchSize <;> rfl

theorem matchSource_sizedOver (view : MiniView) (desktop : Desktop) (matchPos matchSize : Bool) :
    view.SizedOver (view.matchSource desktop matchPos matchSize) desktop matchSize := by
  cases matchSize with
  | true =>
      simp only [SizedOver, matchSource_window, if_true, Window.cliWidth, Window.cliHeight,
        matchedWindow_frame]
      cases matchPos
      all_goals
        simp only [matchedWindow, getBorderSize, Window.setPos, Window.setSize, Window.cliWidth,
          Window.cliHeight, Bool.and_true, Bool.false_eq_true, if_true, if_false]
        omega
  | false => cases matchPos <;> simp [SizedOver, matchedWindow, Window.moveTo]

/-- The overlay's origin is added once more for the window rectangle, and once for the child. -/
theorem matchSource_topLeft (view : MiniView) (desktop : Desktop) (matchSize : Bool) :
    (view.matchSource desktop true matchSize).getClientScreenTopLeft desktop =
      ((view.shownTopLeft desktop).1 + 2 * desktop.overlayLeft,
        (view.shownTopLeft desktop).2 + 2 * desktop.overlayTop) := by
  simp only [getClientScreenTopLeft, matchSource_window, matchedWindow_frame, Prod.mk.injEq]
  cases matchSize
  all_goals
    simp only [matchedWindow, getTopLeftBorderSize, getClientScreenTopLeft, Window.setPos,
      Window.moveTo, Bool.and_true, Bool.and_false, Bool.false_eq_true, if_true, if_false,
      shownTopLeft, clipOffset]
    split <;> constructor <;> simp only <;> omega

theorem matchSource_placedOver_iff (view : MiniView) (desktop : Desktop)
    (matchPos matchSize : Bool) :
    view.PlacedOver (view.matchSource desktop matchPos matchSize) desktop matchPos ↔
      (matchPos = true → desktop.overlayLeft = 0 ∧ desktop.overlayTop = 0) := by
  cases matchPos with
  | true =>
      simp only [PlacedOver, if_true, matchSource_topLeft, Prod.ext_iff, true_imp_iff]
      omega
  | false => cases matchSize <;> simp [PlacedOver, matchedWindow, Window.setSize]

theorem matchSource_overlays_iff (view : MiniView) (desktop : Desktop)
    (matchPos matchSize : Bool) :
    (view.PlacedOver (view.matchSource desktop matchPos matchSize) desktop matchPos ∧
      view.SizedOver (view.matchSource desktop matchPos matchSize) desktop matchSize) ↔
      (matchPos = true → desktop.overlayLeft = 0 ∧ desktop.overlayTop = 0) := by
  rw [matchSource_placedOver_iff]
  exact and_iff_left (matchSource_sizedOver view desktop matchPos matchSize)

/-- A monitor left of the primary one. -/
theorem matchSource_misses_left_monitor :
    ¬ ∀ (view : MiniView) (desktop : Desktop) (matchPos matchSize : Bool),
      view.PlacedOver (view.matchSource desktop matchPos matchSize) desktop matchPos ∧
        view.SizedOver (view.matchSource desktop matchPos matchSize) desktop matchSize := by
  intro overlays
  let desktop : Desktop := ⟨some ⟨100, 100, 800, 600⟩, false, ⟨none, ⟨0, 0⟩⟩, -1920, 0⟩
  have placed := (overlays ((MiniView.init ⟨true, true, false, false⟩).createThis 7 3 desktop
    400 300 ⟨8, 31, 8, 8⟩) desktop true true).1
  exact absurd placed (by decide)

end LeanMiniViews.MiniView
