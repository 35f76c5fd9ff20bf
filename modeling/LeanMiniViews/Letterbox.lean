import LeanMiniViews.FixRatio

/-!
An unlocked view and the letterbox of its locked days. `FixRatio` writes `internallyClipped` only
while the ratio is locked, and it is what `ToggleLockRatio` calls after unlocking.
-/

namespace LeanMiniViews.MiniView

/-- `xDest`, `yDest`, `wDest` and `hDest` of `PaintMiniView`, as a rectangle. -/
def paintDest (view : MiniView) : Rect :=
  if view.internallyClipped then view.rcInternalClip
  else wholeClient view.window.cliWidth view.window.cliHeight

/-- Without the lock nothing is left of the letterbox, and the whole client area is painted. -/
def FillsWindow (view : MiniView) : Prop :=
  view.lockRatio = false →
    view.internallyClipped = false ∧
      view.paintDest = wholeClient view.window.cliWidth view.window.cliHeight

instance (view : MiniView) : Decidable view.FillsWindow := inferInstanceAs (Decidable (_ → _))

theorem fillsWindow_iff (view : MiniView) :
    view.FillsWindow ↔ (view.lockRatio = false → view.internallyClipped = false) := by
  refine forall_congr' fun _ => ?_
  constructor
  · exact fun fills => fills.1
  · intro whole
    exact ⟨whole, by simp [paintDest, whole]⟩

/-- `FixRatio` does nothing. -/
def Idle (view : MiniView) : Prop := view.lockRatio = false ∨ view.settingWindow = true

/-- The lock is left alone, and while `FixRatio` does nothing no letterbox is added. -/
structure AddsNoLetterbox (view other : MiniView) : Prop where
  lockRatio : other.lockRatio = view.lockRatio
  settingWindow : other.settingWindow = view.settingWindow
  idle : view.Idle → other.internallyClipped = true → view.internallyClipped = true

namespace AddsNoLetterbox

variable {view middle other : MiniView}

theorem of_eq (lockRatio : other.lockRatio = view.lockRatio)
    (settingWindow : other.settingWindow = view.settingWindow)
    (internallyClipped : other.internallyClipped = view.internallyClipped) :
    AddsNoLetterbox view other :=
  ⟨lockRatio, settingWindow, fun _ clipped => internallyClipped ▸ clipped⟩

theorem of_cleared (lockRatio : other.lockRatio = view.lockRatio)
    (settingWindow : other.settingWindow = view.settingWindow)
    (internallyClipped : other.internallyClipped = false) : AddsNoLetterbox view other :=
  ⟨lockRatio, settingWindow, fun _ clipped => absurd clipped (by simp [internallyClipped])⟩

theorem trans (first : AddsNoLetterbox view middle) (second : AddsNoLetterbox middle other) :
    AddsNoLetterbox view other := by
  refine ⟨second.lockRatio.trans first.lockRatio,
    second.settingWindow.trans first.settingWindow, ?_⟩
  intro idle clipped
  have stillIdle : middle.Idle := by
    rwa [Idle, first.lockRatio, first.settingWindow]
  exact first.idle idle (second.idle stillIdle clipped)

theorem keepsCleared (adds : AddsNoLetterbox view other) (idle : view.Idle)
    (cleared : view.internallyClipped = false) : other.internallyClipped = false :=
  Bool.eq_false_of_not_eq_true fun clipped => by
    have before := adds.idle idle clipped
    rw [cleared] at before
    cases before

theorem fillsWindow (adds : AddsNoLetterbox view other) (fills : view.FillsWindow) :
    other.FillsWindow := by
  rw [fillsWindow_iff] at fills ⊢
  intro unlocked
  have unlockedBefore := adds.lockRatio ▸ unlocked
  exact adds.keepsCleared (Or.inl unlockedBefore) (fills unlockedBefore)

end AddsNoLetterbox

theorem SameFit.addsNoLetterbox {view other : MiniView} (same : SameFit view other) :
    AddsNoLetterbox view other :=
  .of_eq same.lockRatio same.settingWindow same.internallyClipped

/-! The operations. -/

theorem fixRatio_idle {view : MiniView} (idle : view.Idle) (desktop : Desktop) :
    view.fixRatio desktop = view := by
  rcases idle with unlocked | setting
  · exact fixRatio_unlocked unlocked desktop
  · simp [fixRatio, setting]

theorem fixRatio_addsNoLetterbox (view : MiniView) (desktop : Desktop) :
    AddsNoLetterbox view (view.fixRatio desktop) := by
  refine ⟨by rw [fixRatio_eq], by rw [fixRatio_eq], ?_⟩
  intro idle clipped
  rwa [fixRatio_idle idle] at clipped

theorem matchSource_addsNoLetterbox (view : MiniView) (desktop : Desktop)
    (matchPos matchSize : Bool) :
    AddsNoLetterbox view (view.matchSource desktop matchPos matchSize) := by
  cases matchSize with
  | true =>
      have sized := matchSource_sized view desktop matchPos
      exact .of_cleared sized.lockRatio sized.settingWindow sized.internallyClipped
  | false => exact (matchSource_unsized view desktop matchPos).addsNoLetterbox

theorem matchSourceByDefault_addsNoLetterbox (view : MiniView) (user : MiniViewUser)
    (desktop : Desktop) : AddsNoLetterbox view (view.matchSourceByDefault user desktop) := by
  simp only [matchSourceByDefault]
  split
  · exact matchSource_addsNoLetterbox _ _ _ _
  · exact .of_eq rfl rfl rfl

theorem setClip_addsNoLetterbox (view : MiniView) (user : MiniViewUser) (desktop : Desktop)
    (isClipped : Bool) (left top right bottom : Int) :
    AddsNoLetterbox view (view.setClip user desktop isClipped left top right bottom) := by
  have chosen : AddsNoLetterbox view
      { view with clipped := true, rcClip := ⟨left, top, right, bottom⟩ } := .of_eq rfl rfl rfl
  have fixed := (chosen.trans (matchSourceByDefault_addsNoLetterbox _ user desktop)).trans
    (fixRatio_addsNoLetterbox _ desktop)
  simp only [setClip]
  split
  · split
    · exact fixed.trans (.of_eq rfl rfl rfl)
    · exact fixed
  · exact .of_eq rfl rfl rfl

theorem clearClipRegion_addsNoLetterbox (view : MiniView) (desktop : Desktop) :
    AddsNoLetterbox view (view.clearClipRegion desktop) := by
  simp only [clearClipRegion]
  refine AddsNoLetterbox.trans ?_ (fixRatio_addsNoLetterbox _ _)
  split <;> exact .of_eq rfl rfl rfl

theorem toggleHideWhenSourceOnTop_addsNoLetterbox (view : MiniView) (isSourceOnTop : Bool) :
    AddsNoLetterbox view (view.toggleHideWhenSourceOnTop isSourceOnTop) := by
  simp only [toggleHideWhenSourceOnTop]
  refine AddsNoLetterbox.trans ?_ (checkHideBySourceOnTop_sameFit _ _).addsNoLetterbox
  split <;> exact .of_eq rfl rfl rfl

theorem validateProperties_addsNoLetterbox (view : MiniView) (desktop : Desktop) :
    AddsNoLetterbox view (view.validateProperties desktop) := by
  have checked := (checkHideBySourceOnTop_sameFit view desktop.sourceOnTop).addsNoLetterbox
  simp only [validateProperties]
  split
  · split
    · have sized : AddsNoLetterbox view
          { view.checkHideBySourceOnTop desktop.sourceOnTop with
            sourceSize := ⟨desktop.sourceWidth, desktop.sourceHeight⟩ } :=
        checked.trans (.of_eq rfl rfl rfl)
      have fixed := sized.trans (fixRatio_addsNoLetterbox _ desktop)
      split
      · exact fixed.trans (.of_eq rfl rfl rfl)
      · exact fixed
    · exact checked
  · exact .of_eq rfl rfl rfl

theorem step_addsNoLetterbox {view next : MiniView} {call : Call}
    (stepped : next ∈ view.step call) (other : call.op ≠ .toggleLockRatio) :
    AddsNoLetterbox view next := by
  obtain ⟨user, desktop, op⟩ := call
  cases op with
  | setClip isClipped rect =>
      cases stepped
      exact setClip_addsNoLetterbox _ _ _ _ _ _ _ _
  | clearClipRegion =>
      cases stepped
      exact clearClipRegion_addsNoLetterbox _ _
  | adjustClipTop newTop => cases stepped; exact .of_cleared rfl rfl rfl
  | adjustClipLeft newLeft => cases stepped; exact .of_cleared rfl rfl rfl
  | adjustClipRight newRight => cases stepped; exact .of_cleared rfl rfl rfl
  | adjustClipBottom newBottom => cases stepped; exact .of_cleared rfl rfl rfl
  | adjustWindowLeft newLeft => cases stepped; exact .of_eq rfl rfl rfl
  | adjustWindowTop newTop => cases stepped; exact .of_eq rfl rfl rfl
  | adjustCliWidth newCliWidth =>
      cases stepped
      simp only [adjustCliWidth]
      split <;> exact .of_eq rfl rfl rfl
  | adjustCliHeight newCliHeight =>
      cases stepped
      simp only [adjustCliHeight]
      split <;> exact .of_eq rfl rfl rfl
  | setEditMode newStatus => cases stepped; exact .of_eq rfl rfl rfl
  | validateProperties =>
      cases stepped
      exact validateProperties_addsNoLetterbox _ _
  | showByParentRequest => cases stepped; exact .of_eq rfl rfl rfl
  | hideByParentRequest => cases stepped; exact .of_eq rfl rfl rfl
  | toggleHideWhenSourceOnTop =>
      cases stepped
      exact toggleHideWhenSourceOnTop_addsNoLetterbox _ _
  | toggleLockRatio => exact absurd rfl other
  | matchSource matchPos matchSize =>
      cases stepped
      exact matchSource_addsNoLetterbox _ _ _ _
  | doSizing edge rect =>
      cases stepped
      simp only [sizing, doSizing]
      split <;> exact .of_cleared rfl rfl rfl
  | sizeFinished =>
      cases stepped
      simp only [sizeFinished]
      split <;> exact .of_eq rfl rfl rfl
  | frameArrived contentSize =>
      obtain ⟨mirror, -, rfl⟩ := Option.map_eq_some_iff.mp stepped
      exact .of_eq rfl rfl rfl

/-- The lock is not taken off a view with a letterbox. -/
def UnlocksFilled (view : MiniView) (call : Call) : Prop :=
  call.op = .toggleLockRatio → view.lockRatio = true → view.internallyClipped = false

instance (view : MiniView) (call : Call) : Decidable (view.UnlocksFilled call) :=
  inferInstanceAs (Decidable (_ → _ → _))

theorem toggleLockRatio_fills_iff (view : MiniView) (desktop : Desktop) :
    (view.toggleLockRatio desktop).FillsWindow ↔
      (view.lockRatio = true → view.internallyClipped = false) := by
  rw [fillsWindow_iff]
  simp only [toggleLockRatio]
  cases locked : view.lockRatio with
  | true =>
      rw [fixRatio_unlocked rfl]
      simp
  | false =>
      rw [(fixRatio_addsNoLetterbox _ desktop).lockRatio]
      simp

theorem step_fills_iff {view next : MiniView} {call : Call} (fills : view.FillsWindow)
    (stepped : next ∈ view.step call) : next.FillsWindow ↔ view.UnlocksFilled call := by
  by_cases toggles : call.op = .toggleLockRatio
  · obtain ⟨user, desktop, op⟩ := call
    cases toggles
    cases stepped
    rw [toggleLockRatio_fills_iff]
    exact ⟨fun unlocks _ => unlocks, fun unlocks => unlocks rfl⟩
  · have kept := (step_addsNoLetterbox stepped toggles).fillsWindow fills
    exact ⟨fun _ isToggle => absurd isToggle toggles, fun _ => kept⟩

/-! From the creation of the blank view on. -/

/-- Not dropped on a source yet. -/
structure Blank (view : MiniView) : Prop where
  settingWindow : view.settingWindow = true
  internallyClipped : view.internallyClipped = false

theorem createThis_blank (user : MiniViewUser) (hWnd sourceHandle : HWND) (desktop : Desktop)
    (xc yc : Int) (frame : Frame) :
    ((init user).createThis hWnd sourceHandle desktop xc yc frame).Blank :=
  ⟨rfl, rfl⟩

theorem step_blank {view next : MiniView} {call : Call} (blank : view.Blank)
    (stepped : next ∈ view.step call) : next.Blank := by
  by_cases toggles : call.op = .toggleLockRatio
  · obtain ⟨user, desktop, op⟩ := call
    cases toggles
    cases stepped
    have idle : ({ view with lockRatio := !view.lockRatio }).Idle := Or.inr blank.settingWindow
    rw [toggleLockRatio, fixRatio_idle idle]
    exact ⟨blank.settingWindow, blank.internallyClipped⟩
  · have adds := step_addsNoLetterbox stepped toggles
    exact ⟨adds.settingWindow.trans blank.settingWindow,
      adds.keepsCleared (Or.inr blank.settingWindow) blank.internallyClipped⟩

theorem reachable_blank {view last : MiniView} (blank : view.Blank) {calls : List Call}
    (reached : Runs.final step view calls = some last) : last.Blank :=
  Runs.final_of_invariant (fun _ _ blank _ _ stepped => step_blank blank stepped) blank
    (Runs.along_of_forall fun _ _ _ => trivial) reached

theorem drop_fillsWindow {view : MiniView} (blank : view.Blank) (user : MiniViewUser)
    (desktop : Desktop) (target : DropTarget) :
    (view.drop user desktop target).FillsWindow := by
  simp only [drop]
  refine (matchSourceByDefault_addsNoLetterbox _ user desktop).fillsWindow ?_
  rw [fillsWindow_iff]
  intro _
  split <;> exact blank.internallyClipped

/-- From the drop on, an unlocked view fills its window as long as the lock is never taken off a
view with a letterbox, and no longer. -/
theorem unlocked_fills_iff (user : MiniViewUser) (hWnd sourceHandle : HWND) (start : Desktop)
    (xc yc : Int) (frame : Frame) (before : List Call) (blank : MiniView)
    (reached : Runs.final step
      ((init user).createThis hWnd sourceHandle start xc yc frame) before = some blank)
    (dropUser : MiniViewUser) (desktop : Desktop) (target : DropTarget) (calls : List Call) :
    let dropped := blank.drop dropUser desktop target
    (dropped.FillsWindow ∧
        Runs.Along step (Runs.After step fun _ _ next => next.FillsWindow) dropped calls) ↔
      Runs.Along step UnlocksFilled dropped calls := by
  intro dropped
  have initial : dropped.FillsWindow :=
    drop_fillsWindow (reachable_blank (createThis_blank _ _ _ _ _ _ _) reached) _ _ _
  rw [and_iff_right initial]
  apply Runs.along_iff_of_exact _ _ initial
  · intro view call fills
    refine Runs.after_iff ?_ fun next stepped => step_fills_iff fills stepped
    intro blocked toggles
    obtain ⟨user, desktop, op⟩ := call
    cases toggles
    cases blocked
  · intro view call fills unlocks next stepped
    exact (step_fills_iff fills stepped).mpr unlocks

/-- A square source in a view of twice its width, locked. -/
def droppedOnSquare : MiniView :=
  wideView.drop lockedUser squareDesktop ⟨2, false, true⟩

def onSquare (op : Op) : Call := ⟨lockedUser, squareDesktop, op⟩

theorem unlocked_fills_droppedOnSquare :
    Runs.Along step (Runs.After step fun _ _ next => next.FillsWindow) droppedOnSquare
      [onSquare .clearClipRegion, onSquare (.matchSource false true),
        onSquare .toggleLockRatio] :=
  ((unlocked_fills_iff lockedUser 1 0 { squareDesktop with source := some ⟨0, 0, 1200, 600⟩ }
    100 50 Frame.none [] wideView rfl lockedUser squareDesktop ⟨2, false, true⟩ _).mpr
      (by decide)).2

/-- Locked, letterboxed and unlocked. -/
theorem unlocked_letterboxed :
    ¬ ∀ (user : MiniViewUser) (start : Desktop) (before : List Call) (blank : MiniView),
      Runs.final step ((init user).createThis 1 0 start 100 50 Frame.none) before = some blank →
      ∀ (dropUser : MiniViewUser) (desktop : Desktop) (target : DropTarget) (calls : List Call),
        Runs.Along step (Runs.After step fun _ _ next => next.FillsWindow)
          (blank.drop dropUser desktop target) calls := by
  intro claim
  have run := claim lockedUser { squareDesktop with source := some ⟨0, 0, 1200, 600⟩ } []
    wideView rfl lockedUser squareDesktop ⟨2, false, true⟩
    [onSquare .clearClipRegion, onSquare .toggleLockRatio]
  revert run
  decide

end LeanMiniViews.MiniView
