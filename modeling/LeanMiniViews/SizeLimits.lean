import LeanMiniViews.ClientArea

/-!
The sizes that the system gives a view. In edit mode the window has a sizing border. Whenever such
a window is given a size, the system asks for the least one it may have, and gives it no less.
-/

namespace LeanMiniViews

def Window.limited (window : Window) (least : Int × Int) : Window :=
  if window.editModeStyles then
    { window with width := max least.1 window.width, height := max least.2 window.height }
  else window

/-- The system leaves the window the size it has just been given. -/
def Window.Granted (window : Window) (least : Int × Int) : Prop :=
  window.editModeStyles = true → least.1 ≤ window.width ∧ least.2 ≤ window.height

instance (window : Window) (least : Int × Int) : Decidable (window.Granted least) :=
  inferInstanceAs (Decidable (_ → _))

theorem Window.limited_of_granted {window : Window} {least : Int × Int}
    (granted : window.Granted least) : window.limited least = window := by
  rw [limited]
  split
  · rename_i styled
    obtain ⟨across, down⟩ := granted styled
    rw [max_eq_right across, max_eq_right down]
  · rfl

namespace MiniView

def minimumDimension : Int := 33

/-- `MiniView::SetMinMaxSize`, whose maximum is above every size. -/
def minTrackSize (desktop : Desktop) : Int × Int :=
  let viewWidth := desktop.sourceWidth
  let viewHeight := desktop.sourceHeight
  if viewWidth > viewHeight then
    (if viewHeight = 0 then 0 else (minimumDimension * viewWidth).tdiv viewHeight,
      minimumDimension)
  else
    (minimumDimension,
      if viewWidth = 0 then 0 else (minimumDimension * viewHeight).tdiv viewWidth)

/-! The calls with the limits, for those that give the window a size as the last thing they do with
it. `SetClipRegion` gives it a width and a height, each of which has its own limit. -/

def limitSize (view : MiniView) (desktop : Desktop) : MiniView :=
  { view with window := view.window.limited (minTrackSize desktop) }

/-- `MatchSource` takes the size the window has got for the one that was chosen. -/
def limitMatched (view : MiniView) (desktop : Desktop) (matchSize : Bool) : MiniView :=
  if matchSize then
    let limited := view.limitSize desktop
    { limited with
      lastUserSetCliWidth := limited.window.cliWidth
      lastUserSetCliHeight := limited.window.cliHeight }
  else view

def limitedCreateThis (view : MiniView) (hWnd sourceHandle : HWND) (desktop : Desktop)
    (xc yc : Int) (editModeFrame : Frame) : MiniView :=
  (view.createThis hWnd sourceHandle desktop xc yc editModeFrame).limitSize desktop

def limitedDrop (view : MiniView) (user : MiniViewUser) (desktop : Desktop) (target : DropTarget) :
    MiniView :=
  (view.drop user desktop target).limitMatched desktop user.defaultMatchSourceSize

def limitedSetClip (view : MiniView) (user : MiniViewUser) (desktop : Desktop) (isClipped : Bool)
    (left top right bottom : Int) : MiniView :=
  if isClipped then
    let chosen := { view with clipped := true, rcClip := ⟨left, top, right, bottom⟩ }
    let matched := (chosen.matchSourceByDefault user desktop).limitMatched desktop
      user.defaultMatchSourceSize
    let fixed := matched.fixRatio desktop
    if fixed.isGraphicsCaptureCompatible then
      { fixed with graphicsCaptureMirror := fixed.forwardClip desktop }
    else fixed
  else { view with clipped := false }

def limitedStep (view : MiniView) (call : Call) : Option MiniView :=
  match call.op with
  | .setClip isClipped rect =>
      some (view.limitedSetClip call.user call.desktop isClipped rect.left rect.top rect.right
        rect.bottom)
  | .matchSource matchPos matchSize =>
      some ((view.matchSource call.desktop matchPos matchSize).limitMatched call.desktop matchSize)
  | .clearClipRegion => (view.step call).map fun next => next.limitSize call.desktop
  | .adjustCliWidth _ => (view.step call).map fun next => next.limitSize call.desktop
  | .adjustCliHeight _ => (view.step call).map fun next => next.limitSize call.desktop
  | .setEditMode _ => (view.step call).map fun next => next.limitSize call.desktop
  | .doSizing _ _ => (view.step call).map fun next => next.limitSize call.desktop
  | _ => view.step call

def asksForSize (call : Call) : Bool :=
  match call.op with
  | .setClip isClipped _ => isClipped && call.user.defaultMatchSourceSize
  | .matchSource _ matchSize => matchSize
  | .clearClipRegion => true
  | .adjustCliWidth _ => true
  | .adjustCliHeight _ => true
  | .setEditMode _ => true
  | .doSizing _ _ => true
  | _ => false

/-- The size the call asks for, if it does, is one that the system grants. -/
def Grants (view : MiniView) (call : Call) : Prop :=
  asksForSize call = true →
    ∀ next ∈ view.step call, next.window.Granted (minTrackSize call.desktop)

instance (view : MiniView) (call : Call) : Decidable (view.Grants call) :=
  inferInstanceAs (Decidable (_ → _))

theorem limitSize_of_granted {view : MiniView} {desktop : Desktop}
    (granted : view.window.Granted (minTrackSize desktop)) : view.limitSize desktop = view := by
  rw [limitSize, Window.limited_of_granted granted]

theorem limitMatched_of_granted {view : MiniView} {desktop : Desktop} {matchSize : Bool}
    (tracks : matchSize = true → view.TracksGuide)
    (granted : matchSize = true → view.window.Granted (minTrackSize desktop)) :
    view.limitMatched desktop matchSize = view := by
  cases matchSize with
  | false => rfl
  | true =>
      obtain ⟨width, height⟩ := tracks rfl
      simp only [limitMatched, if_true, limitSize_of_granted (granted rfl), width, height]

theorem matchSource_sized_tracks (view : MiniView) (desktop : Desktop) (matchPos : Bool) :
    (view.matchSource desktop matchPos true).TracksGuide := by
  simp only [matchSource, if_true]
  rw [recreateMirror_eq]
  exact ⟨rfl, rfl⟩

theorem matchSourceByDefault_sized_tracks (view : MiniView) {user : MiniViewUser}
    (sizes : user.defaultMatchSourceSize = true) (desktop : Desktop) :
    (view.matchSourceByDefault user desktop).TracksGuide := by
  rw [matchSourceByDefault, sizes, Bool.or_true, if_pos rfl]
  exact matchSource_sized_tracks view desktop _

theorem setClip_window (view : MiniView) (user : MiniViewUser) (desktop : Desktop)
    (left top right bottom : Int) :
    (view.setClip user desktop true left top right bottom).window =
      (({ view with clipped := true, rcClip := ⟨left, top, right, bottom⟩ } :
        MiniView).matchSourceByDefault user desktop).window := by
  simp only [setClip, if_true]
  split
  · exact fixRatio_window _ desktop
  · exact fixRatio_window _ desktop

theorem limitedSetClip_of_granted {view : MiniView} {user : MiniViewUser} {desktop : Desktop}
    {isClipped : Bool} {left top right bottom : Int}
    (granted : isClipped = true → user.defaultMatchSourceSize = true →
      (view.setClip user desktop isClipped left top right bottom).window.Granted
        (minTrackSize desktop)) :
    view.limitedSetClip user desktop isClipped left top right bottom =
      view.setClip user desktop isClipped left top right bottom := by
  cases isClipped with
  | false => rfl
  | true =>
      have matched := @limitMatched_of_granted
        (({ view with clipped := true, rcClip := ⟨left, top, right, bottom⟩ } :
          MiniView).matchSourceByDefault user desktop) desktop user.defaultMatchSourceSize
        (fun sizes => matchSourceByDefault_sized_tracks _ sizes desktop)
        (fun sizes => setClip_window view user desktop left top right bottom ▸ granted rfl sizes)
      simp only [limitedSetClip, setClip, if_true, matched]

/-- Where the sizes asked for are granted, the limits change nothing. -/
theorem limitedStep_of_grants {view : MiniView} {call : Call} (grants : view.Grants call) :
    view.limitedStep call = view.step call := by
  have mapped (asks : asksForSize call = true) :
      (view.step call).map (fun next => next.limitSize call.desktop) = view.step call := by
    cases stepped : view.step call with
    | none => rfl
    | some next =>
        rw [Option.map_some, limitSize_of_granted (grants asks next stepped)]
  obtain ⟨user, desktop, op⟩ := call
  cases op with
  | setClip isClipped rect =>
      refine congrArg some (limitedSetClip_of_granted fun clips sizes => ?_)
      exact grants (by rw [asksForSize, clips, sizes]; rfl) _ rfl
  | matchSource matchPos matchSize =>
      refine congrArg some (limitMatched_of_granted (fun sizes => ?_) fun sizes => ?_)
      · rw [sizes]
        exact matchSource_sized_tracks view desktop matchPos
      · exact grants sizes _ rfl
  | clearClipRegion => exact mapped rfl
  | adjustCliWidth newCliWidth => exact mapped rfl
  | adjustCliHeight newCliHeight => exact mapped rfl
  | setEditMode newStatus => exact mapped rfl
  | doSizing edge rect => exact mapped rfl
  | _ => rfl

theorem limitedDrop_of_granted {view : MiniView} {user : MiniViewUser} {desktop : Desktop}
    {target : DropTarget}
    (granted : user.defaultMatchSourceSize = true →
      (view.drop user desktop target).window.Granted (minTrackSize desktop)) :
    view.limitedDrop user desktop target = view.drop user desktop target :=
  limitMatched_of_granted (fun _ => drop_tracks view user desktop target) granted

theorem final_of_grants {view : MiniView} {calls : List Call}
    (grants : Runs.Along limitedStep Grants view calls) :
    Runs.final limitedStep view calls = Runs.final step view calls := by
  induction calls generalizing view with
  | nil => rfl
  | cons call rest ih =>
      obtain ⟨here, later⟩ := grants
      rw [Runs.final_cons, Runs.final_cons]
      rw [limitedStep_of_grants here] at later ⊢
      cases stepped : view.step call with
      | none => rfl
      | some next => exact ih (later next stepped)

theorem restoreSize_window {view : MiniView} (tracks : view.TracksGuide) :
    view.restoreSize.window = view.window := by
  have place := restoreSize_samePlace tracks
  have sized : view.restoreSize.window = { view.window with
      width := view.restoreSize.window.width
      height := view.restoreSize.window.height } := rfl
  rw [sized, place.width, place.height]

/-- From the drop on, as long as the system grants the sizes asked for, the client area has the
size the user chose last, so that `SetClipRegion` leaves it alone. It stays where it is, also when
the edit mode brings a frame or takes it away, as long as nothing is called that is meant to move or
to resize the view. -/
theorem client_area_kept (view : MiniView) (user : MiniViewUser) (desktop : Desktop)
    (target : DropTarget) (calls : List Call)
    (granted : user.defaultMatchSourceSize = true →
      (view.drop user desktop target).window.Granted (minTrackSize desktop))
    (grants : Runs.Along limitedStep Grants (view.limitedDrop user desktop target) calls) :
    Runs.Along limitedStep
      (fun view call =>
        view.TracksGuide ∧
          (view.window.Granted (minTrackSize call.desktop) →
            (view.setClipRegion.limitSize call.desktop).clientRect = view.clientRect) ∧
          ∀ next ∈ view.limitedStep call, moves call = false → next.clientRect = view.clientRect)
      (view.limitedDrop user desktop target) calls := by
  rw [limitedDrop_of_granted granted] at grants ⊢
  refine Runs.along_of_invariant ?_ ?_ (drop_tracks view user desktop target) grants
  · intro view call tracks grants next stepped
    rw [limitedStep_of_grants grants] at stepped
    exact step_tracks tracks stepped
  · intro view call tracks grants
    refine ⟨tracks, ?_, ?_⟩
    · intro granted
      have same : view.setClipRegion.window = view.window := restoreSize_window tracks
      rw [limitSize_of_granted (same ▸ granted)]
      exact (restoreSize_samePlace tracks).clientRect
    · intro next stepped unmoved
      rw [limitedStep_of_grants grants] at stepped
      exact step_clientRect tracks unmoved stepped

theorem client_area_kept_wideView :
    Runs.Along limitedStep
      (fun view call =>
        view.TracksGuide ∧
          (view.window.Granted (minTrackSize call.desktop) →
            (view.setClipRegion.limitSize call.desktop).clientRect = view.clientRect) ∧
          ∀ next ∈ view.limitedStep call, moves call = false → next.clientRect = view.clientRect)
      (wideView.limitedDrop lockedUser squareDesktop ⟨2, false, true⟩)
      [⟨lockedUser, squareDesktop, .clearClipRegion⟩,
        ⟨lockedUser, squareDesktop, .adjustCliWidth 33⟩,
        ⟨lockedUser, squareDesktop, .setEditMode false⟩,
        ⟨lockedUser, squareDesktop, .adjustCliWidth 20⟩] :=
  client_area_kept wideView lockedUser squareDesktop ⟨2, false, true⟩ _ (by decide) (by decide)

/-- In edit mode a view of 20 points is one of 33. -/
example : ((wideView.limitedDrop lockedUser squareDesktop ⟨2, false, true⟩).limitedStep
    ⟨lockedUser, squareDesktop, .adjustCliWidth 20⟩).map (fun view =>
      (view.lastUserSetCliWidth, view.window.cliWidth)) = some (20, 33) := by
  decide

end MiniView

end LeanMiniViews
