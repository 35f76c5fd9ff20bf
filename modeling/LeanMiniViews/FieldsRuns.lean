import LeanMiniViews.DecimalFields
import LeanMiniViews.FieldsSettle
import LeanMiniViews.Runs
import LeanMiniViews.SizeLimits
import LeanMiniViews.TypedSizes

/-!
The boxes of the Views tab while the user goes through them and types nothing.
-/

namespace LeanMiniViews

theorem MiniViews.lookup_update {overlay : MiniViews} {hMiniView : HWND} {view next : MiniView}
    (found : overlay.lookup hMiniView = some view) (same : next.window.hWnd = hMiniView) :
    (overlay.update hMiniView fun _ => next).lookup hMiniView = some next := by
  have named : view.window.hWnd = hMiniView := lookup_hWnd found
  let changed := fun other : MiniView =>
    if other.window.hWnd = hMiniView then next else other
  have names (other : MiniView) :
      ((changed other).window.hWnd == hMiniView) = (other.window.hWnd == hMiniView) := by
    simp only [changed]
    split
    · rename_i called
      rw [same, called]
    · rfl
  rw [lookup] at found
  rw [lookup, update]
  show ((overlay.currMiniViews.map changed ++ overlay.closedMiniViews.map changed).find? _) = _
  rw [← List.map_append, List.find?_map]
  simp only [Function.comp_def, names, found, Option.map_some, changed, if_pos named]

namespace MiniView

/-- A view before and after one of its boxes was left that showed it. -/
structure Left (desktop : Desktop) (idFrom : ViewsEdit) (view next : MiniView) : Prop where
  sides : (next.window.cliWidth, next.window.cliHeight) =
    leaveSize view.lockRatio (view.shownWidth desktop) (view.shownHeight desktop)
      (view.window.cliWidth, view.window.cliHeight) idFrom
  window : next.window = view.window.setSize next.window.width next.window.height
  rcClip : next.rcClip = view.rcClip
  clipped : next.clipped = view.clipped
  lockRatio : next.lockRatio = view.lockRatio

/-- Where the clip can be edited, it lies within the source. -/
def ClipsWithin (view : MiniView) (desktop : Desktop) : Prop :=
  view.clipped = true → view.rcClip.WithinSource desktop.sourceWidth desktop.sourceHeight

theorem clampedEdge_self {last edge : Int} (lower : 0 ≤ edge) (upper : edge ≤ last)
    (source : Option SourceWindow) : clampedEdge last edge edge source = edge := by
  unfold clampedEdge
  split
  · rw [if_neg (by omega), if_neg (by omega)]
  · rfl

theorem left_of_clip {view : MiniView} {desktop : Desktop} {idFrom : ViewsEdit} {rcClip : Rect}
    (isClip : idFrom.isClip = true) (same : rcClip = view.rcClip) :
    Left desktop idFrom view { view.clearFixRatioCache with rcClip := rcClip } := by
  refine ⟨?_, rfl, same, rfl, rfl⟩
  cases idFrom <;> first | rfl | cases isClip

theorem left_of_setCliSize {view : MiniView} {desktop : Desktop} {idFrom : ViewsEdit}
    {newCliWidth newCliHeight : Int} (fixedWidth fixedHeight : Int)
    (sides : leaveSize view.lockRatio (view.shownWidth desktop) (view.shownHeight desktop)
      (view.window.cliWidth, view.window.cliHeight) idFrom = (newCliWidth, newCliHeight)) :
    let fixed := { view with
      lastCliWidthFixedTo := fixedWidth
      lastCliHeightFixedTo := fixedHeight }
    Left desktop idFrom view (fixed.setCliSize newCliWidth newCliHeight) := by
  refine ⟨?_, rfl, rfl, rfl, rfl⟩
  rw [sides]
  refine Prod.ext ?_ ?_
  · show newCliWidth + (view.window.width - view.window.cliWidth) -
      (view.window.frame.left + view.window.frame.right) = newCliWidth
    rw [Window.cliWidth]
    ring
  · show newCliHeight + (view.window.height - view.window.cliHeight) -
      (view.window.frame.top + view.window.frame.bottom) = newCliHeight
    rw [Window.cliHeight]
    ring

theorem step_left (view : MiniView) (user : MiniViewUser) {desktop : Desktop} {idFrom : ViewsEdit}
    (within : idFrom.isClip = true →
      view.rcClip.WithinSource desktop.sourceWidth desktop.sourceHeight) :
    ∃ next, view.step ⟨user, desktop, idFrom.adjusts (view.editNum idFrom)⟩ = some next ∧
      Left desktop idFrom view next := by
  cases idFrom with
  | editWindowXPos => exact ⟨_, rfl, rfl, rfl, rfl, rfl, rfl⟩
  | editWindowYPos => exact ⟨_, rfl, rfl, rfl, rfl, rfl, rfl⟩
  | editWindowWidth =>
      refine ⟨view.adjustCliWidth desktop view.window.cliWidth, rfl, ?_⟩
      cases locked : view.lockRatio with
      | false =>
          rw [adjustCliWidth, if_neg (by simp [locked])]
          refine left_of_setCliSize view.lastCliWidthFixedTo view.lastCliHeightFixedTo ?_
          rw [locked, leaveSize, if_neg Bool.false_ne_true]
      | true =>
          rw [adjustCliWidth, if_pos locked]
          refine left_of_setCliSize (view.shownWidth desktop) (view.shownHeight desktop) ?_
          rw [locked, leaveSize, if_pos rfl]
  | editWindowHeight =>
      refine ⟨view.adjustCliHeight desktop view.window.cliHeight, rfl, ?_⟩
      cases locked : view.lockRatio with
      | false =>
          rw [adjustCliHeight, if_neg (by simp [locked])]
          refine left_of_setCliSize view.lastCliWidthFixedTo view.lastCliHeightFixedTo ?_
          rw [locked, leaveSize, if_neg Bool.false_ne_true]
      | true =>
          rw [adjustCliHeight, if_pos locked]
          refine left_of_setCliSize (view.shownWidth desktop) (view.shownHeight desktop) ?_
          rw [locked, leaveSize, if_pos rfl]
  | editClipLeft =>
      obtain ⟨left, across, right, -⟩ := within rfl
      refine ⟨_, rfl, left_of_clip rfl ?_⟩
      exact congrArg (fun edge => { view.rcClip with left := edge })
        (clampedEdge_self left (across.trans right) desktop.source)
  | editClipTop =>
      obtain ⟨-, -, -, top, down, bottom⟩ := within rfl
      refine ⟨_, rfl, left_of_clip rfl ?_⟩
      exact congrArg (fun edge => { view.rcClip with top := edge })
        (clampedEdge_self top (down.trans bottom) desktop.source)
  | editClipRight =>
      obtain ⟨left, across, right, -⟩ := within rfl
      refine ⟨_, rfl, left_of_clip rfl ?_⟩
      exact congrArg (fun edge => { view.rcClip with right := edge })
        (clampedEdge_self (left.trans across) right desktop.source)
  | editClipBottom =>
      obtain ⟨-, -, -, top, down, bottom⟩ := within rfl
      refine ⟨_, rfl, left_of_clip rfl ?_⟩
      exact congrArg (fun edge => { view.rcClip with bottom := edge })
        (clampedEdge_self (top.trans down) bottom desktop.source)

/-- What holds of a view that the boxes show while the user goes through them. -/
structure Fitting (view : MiniView) (desktop : Desktop) : Prop where
  left : IntegralType.int.Fits view.window.left
  top : IntegralType.int.Fits view.window.top
  clip : ∀ idFrom : ViewsEdit, idFrom.isClip = true →
    IntegralType.int.Fits (view.editNum idFrom)
  shows : view.ShowsScreen desktop
  within : view.ClipsWithin desktop
  onTheWay : OnTheWay view.lockRatio (view.shownWidth desktop) (view.shownHeight desktop)
    (view.window.cliWidth, view.window.cliHeight)

theorem Fitting.editNum_fits {view : MiniView} {desktop : Desktop}
    (fitting : view.Fitting desktop) (idFrom : ViewsEdit) :
    IntegralType.int.Fits (view.editNum idFrom) := by
  have fits_of_le {side : Int} (small : |side| ≤ 2147483647) : IntegralType.int.Fits side := by
    rw [abs_le] at small
    simp only [IntegralType.Fits, IntegralType.int, if_true]
    omega
  cases idFrom with
  | editWindowXPos => exact fitting.left
  | editWindowYPos => exact fitting.top
  | editWindowWidth => exact fits_of_le fitting.onTheWay.fits.width
  | editWindowHeight => exact fits_of_le fitting.onTheWay.fits.height
  | _ => exact fitting.clip _ rfl

theorem Left.fitting {view next : MiniView} {desktop : Desktop} {idFrom : ViewsEdit}
    (left : Left desktop idFrom view next) (fitting : view.Fitting desktop) :
    next.Fitting desktop := by
  have shows := fitting.shows
  have shownWidth := shownWidth_congr left.clipped left.rcClip desktop
  have shownHeight := shownHeight_congr left.clipped left.rcClip desktop
  refine ⟨?_, ?_, ?_, ?_, ?_, ?_⟩
  · rw [left.window]
    exact fitting.left
  · rw [left.window]
    exact fitting.top
  · intro other isClip
    have same : next.editNum other = view.editNum other := by
      cases other with
      | editClipLeft => exact congrArg Rect.left left.rcClip
      | editClipTop => exact congrArg Rect.top left.rcClip
      | editClipRight => exact congrArg Rect.right left.rcClip
      | editClipBottom => exact congrArg Rect.bottom left.rcClip
      | _ => cases isClip
    rw [same]
    exact fitting.clip other isClip
  · refine ⟨?_, ?_, ?_, ?_⟩
    · rw [shownWidth]
      exact shows.width_nonneg
    · rw [shownWidth]
      exact shows.width_le
    · rw [shownHeight]
      exact shows.height_nonneg
    · rw [shownHeight]
      exact shows.height_le
  · rw [ClipsWithin, left.clipped, left.rcClip]
    exact fitting.within
  · rw [shownWidth, shownHeight, left.lockRatio, left.sides]
    exact fitting.onTheWay.leave ⟨shows.width_nonneg, shows.width_le⟩
      ⟨shows.height_nonneg, shows.height_le⟩ idFrom

end MiniView

namespace ViewsTab

/-- The boxes show this view, which is the selected one. -/
structure Shows (tab : ViewsTab) (view : MiniView) : Prop where
  shown : tab.shownView = some view
  edits : ∀ idFrom, tab.fields.edits idFrom = .showing (Strtol.decimal (view.editNum idFrom))
  checks : tab.fields.checks = view.isChecked
  enabled : tab.fields.enabled = true
  clipEnabled : tab.fields.clipEnabled = view.clipped

theorem refreshFields_shows {tab : ViewsTab} {view : MiniView} (shown : tab.shownView = some view)
    (readable : ∀ idFrom, (tab.fields.edits idFrom).readable = true) :
    tab.refreshFields.Shows view := by
  have refreshed : tab.refreshFields.fields = tab.fields.refresh (some view) := by
    rw [refreshFields, shown]
  refine ⟨shown, ?_, ?_, ?_, ?_⟩
  · intro idFrom
    rw [refreshed]
    exact EditControl.setEditNum_eq_showing (readable idFrom) _
  · rw [refreshed]
    rfl
  · rw [refreshed]
    rfl
  · rw [refreshed]
    rfl

theorem perform_call {tab : ViewsTab} {currMiniView : HWND} {call : MiniView.Call}
    {view next : MiniView} (selected : tab.currMiniView = some currMiniView)
    (found : tab.miniViews.lookup currMiniView = some view) (own : MiniView.IsOwn call)
    (called : view.step call = some next)
    (readable : ∀ idFrom, (tab.fields.edits idFrom).readable = true) :
    (tab.perform (.call currMiniView call)).Shows next := by
  have sameWindow : next.window.hWnd = currMiniView :=
    (MiniView.step_sameWindows called).hWnd.trans (MiniViews.lookup_hWnd found)
  have stepped : tab.miniViews.step (.call currMiniView call) =
      some (tab.miniViews.update currMiniView fun _ => next) := by
    simp only [MiniViews.step, if_pos own, found, called, Option.bind_some, Option.map_some]
  rw [perform, stepped]
  refine refreshFields_shows ?_ readable
  rw [shownView]
  show tab.currMiniView.bind _ = _
  rw [selected, Option.bind_some]
  exact MiniViews.lookup_update found sameWindow

theorem step_leave {tab next : ViewsTab} {view : MiniView} {user : MiniViewUser}
    {desktop : Desktop} {idFrom : ViewsEdit} (shows : tab.Shows view)
    (fitting : view.Fitting desktop)
    (stepped : step tab (user, desktop, .leave idFrom) = some next) :
    ∃ left, view.Left desktop idFrom left ∧ next.Shows left := by
  obtain ⟨enabled, left⟩ := Option.ite_none_right_eq_some.mp stepped
  cases left
  have within : idFrom.isClip = true →
      view.rcClip.WithinSource desktop.sourceWidth desktop.sourceHeight := by
    intro isClip
    rw [ViewFields.isEnabled, isClip, shows.clipEnabled] at enabled
    simp only [Bool.not_true, Bool.false_or, Bool.and_eq_true] at enabled
    exact fitting.within enabled.2
  obtain ⟨left, called, isLeft⟩ := view.step_left user within
  refine ⟨left, isLeft, ?_⟩
  obtain ⟨currMiniView, selected, found⟩ := Option.bind_eq_some_iff.mp shows.shown
  have parsed : (tab.fields.edits idFrom).getEditNum IntegralType.int 0 =
      (true, view.editNum idFrom) := by
    rw [shows.edits]
    exact EditControl.getEditNum_of_fits (Strtol.literal_decimal _)
      (fitting.editNum_fits idFrom) 0
  rw [notifyEditFocusLost, selected]
  simp only [parsed, if_true]
  refine perform_call selected found ?_ called fun other => ?_
  · cases idFrom <;> exact ⟨nofun, nofun⟩
  · rw [shows.edits]
    rfl

/-! The same with the limits that the system has for the size of the view. -/

def limitedPerform (tab : ViewsTab) (hMiniView : HWND) (call : MiniView.Call) : ViewsTab :=
  let called := (tab.miniViews.lookup hMiniView).bind fun view =>
    (view.limitedStep call).map fun next => tab.miniViews.update hMiniView fun _ => next
  { tab with miniViews := called.getD tab.miniViews }.refreshFields

/-- The number in a box, as `NotifyEditFocusLost` reads it. -/
def typedNum (tab : ViewsTab) (idFrom : ViewsEdit) : Bool × Int :=
  (tab.fields.edits idFrom).getEditNum IntegralType.int 0

def limitedLeave (tab : ViewsTab) (call : MiniViewUser × Desktop × ViewsEdit) : Option ViewsTab :=
  let (user, desktop, idFrom) := call
  if tab.fields.isEnabled idFrom then
    match tab.currMiniView with
    | some currMiniView =>
        let num := tab.typedNum idFrom
        some (if num.1 then
          tab.limitedPerform currMiniView ⟨user, desktop, idFrom.adjusts num.2⟩
        else tab.refreshFields)
    | none => some tab
  else none

/-- The size that a box asks for, if it is the box of a size, is one that the system grants. -/
def GrantsLeave (tab : ViewsTab) (call : MiniViewUser × Desktop × ViewsEdit) : Prop :=
  ∀ view ∈ tab.shownView,
    view.Grants ⟨call.1, call.2.1, call.2.2.adjusts (tab.typedNum call.2.2).2⟩

instance (tab : ViewsTab) (call : MiniViewUser × Desktop × ViewsEdit) :
    Decidable (tab.GrantsLeave call) :=
  inferInstanceAs (Decidable (∀ view ∈ tab.shownView, view.Grants _))

theorem limitedLeave_of_grants {tab : ViewsTab} {user : MiniViewUser} {desktop : Desktop}
    {idFrom : ViewsEdit} (grants : tab.GrantsLeave (user, desktop, idFrom)) :
    tab.limitedLeave (user, desktop, idFrom) = step tab (user, desktop, .leave idFrom) := by
  simp only [limitedLeave, step]
  refine if_congr Iff.rfl ?_ rfl
  cases selected : tab.currMiniView with
  | none => simp only [notifyEditFocusLost, selected]
  | some currMiniView =>
      simp only [notifyEditFocusLost, selected, typedNum, Option.some.injEq]
      refine if_congr Iff.rfl ?_ rfl
      have own : MiniView.IsOwn ⟨user, desktop, idFrom.adjusts (tab.typedNum idFrom).2⟩ := by
        cases idFrom <;> exact ⟨nofun, nofun⟩
      have called : ((tab.miniViews.lookup currMiniView).bind fun view =>
            (view.limitedStep ⟨user, desktop, idFrom.adjusts (tab.typedNum idFrom).2⟩).map
              fun next => tab.miniViews.update currMiniView fun _ => next) =
          tab.miniViews.step
            (.call currMiniView ⟨user, desktop, idFrom.adjusts (tab.typedNum idFrom).2⟩) := by
        rw [MiniViews.step, if_pos own]
        cases found : tab.miniViews.lookup currMiniView with
        | none => rfl
        | some view =>
            have shown : tab.shownView = some view := by rw [shownView, selected]; exact found
            rw [Option.bind_some, Option.bind_some,
              MiniView.limitedStep_of_grants (grants view shown)]
      exact congrArg (fun overlay : Option MiniViews =>
        ({ tab with miniViews := overlay.getD tab.miniViews } : ViewsTab).refreshFields) called

/-- Leaving these boxes one after the other, without a change to any of them. -/
def leaves (user : MiniViewUser) (desktop : Desktop) (idFroms : List ViewsEdit) :
    List (MiniViewUser × Desktop × ViewsEdit) :=
  idFroms.map fun idFrom => (user, desktop, idFrom)

/-- A view before and after some boxes were left: only its sides may differ, and by this much. -/
structure Gone (desktop : Desktop) (idFroms : List ViewsEdit) (view next : MiniView) : Prop where
  sides : (next.window.cliWidth, next.window.cliHeight) =
    idFroms.foldl (leaveSize view.lockRatio (view.shownWidth desktop) (view.shownHeight desktop))
      (view.window.cliWidth, view.window.cliHeight)
  window : next.window = view.window.setSize next.window.width next.window.height
  rcClip : next.rcClip = view.rcClip
  clipped : next.clipped = view.clipped
  lockRatio : next.lockRatio = view.lockRatio

theorem final_leaves {tab last : ViewsTab} {view : MiniView} {user : MiniViewUser}
    {desktop : Desktop} {idFroms : List ViewsEdit} (shows : tab.Shows view)
    (fitting : view.Fitting desktop)
    (grants : Runs.Along limitedLeave GrantsLeave tab (leaves user desktop idFroms))
    (run : Runs.final limitedLeave tab (leaves user desktop idFroms) = some last) :
    ∃ next, last.Shows next ∧ next.Fitting desktop ∧ Gone desktop idFroms view next := by
  induction idFroms generalizing tab view with
  | nil =>
      cases run
      exact ⟨view, shows, fitting, rfl, rfl, rfl, rfl, rfl⟩
  | cons idFrom rest ih =>
      obtain ⟨here, later⟩ := grants
      rw [leaves, List.map_cons, Runs.final_cons, Option.bind_eq_some_iff] at run
      obtain ⟨middle, stepped, run⟩ := run
      have granted := later middle stepped
      rw [limitedLeave_of_grants here] at stepped
      obtain ⟨left, isLeft, shownLeft⟩ := step_leave shows fitting stepped
      obtain ⟨next, shownNext, fittingNext, gone⟩ :=
        ih shownLeft (isLeft.fitting fitting) granted run
      refine ⟨next, shownNext, fittingNext, ?_, ?_, ?_, ?_, ?_⟩
      · rw [gone.sides, MiniView.shownWidth_congr isLeft.clipped isLeft.rcClip,
          MiniView.shownHeight_congr isLeft.clipped isLeft.rcClip, isLeft.lockRatio, isLeft.sides,
          List.foldl_cons]
      · rw [gone.window, isLeft.window]
        rfl
      · rw [gone.rcClip, isLeft.rcClip]
      · rw [gone.clipped, isLeft.clipped]
      · rw [gone.lockRatio, isLeft.lockRatio]

theorem setSize_of_sides {window : Window} {width height : Int}
    (sides : ((window.setSize width height).cliWidth, (window.setSize width height).cliHeight) =
      (window.cliWidth, window.cliHeight)) : window.setSize width height = window := by
  obtain ⟨across, down⟩ := Prod.mk.inj sides
  have sameWidth : width = window.width := by
    have frame : width - (window.frame.left + window.frame.right) =
      window.width - (window.frame.left + window.frame.right) := across
    omega
  have sameHeight : height = window.height := by
    have frame : height - (window.frame.top + window.frame.bottom) =
      window.height - (window.frame.top + window.frame.bottom) := down
    omega
  rw [sameWidth, sameHeight]
  rfl

/-- The user goes through the boxes and changes none, and the system grants the sizes. Place and
clip stay as they were, and the sizes with them unless the ratio is locked; then they stay from
when both have been left on. -/
theorem boxes_settle {tab settled last : ViewsTab} {view : MiniView} {user : MiniViewUser}
    {desktop : Desktop} {before after : List ViewsEdit} (shows : tab.Shows view)
    (fits : ∀ idFrom, IntegralType.int.Fits (view.editNum idFrom))
    (small : SmallSides (view.window.cliWidth, view.window.cliHeight) 32767)
    (screen : view.ShowsScreen desktop) (within : view.ClipsWithin desktop)
    (width : .editWindowWidth ∈ before) (height : .editWindowHeight ∈ before)
    (grants : Runs.Along limitedLeave GrantsLeave tab (leaves user desktop before))
    (first : Runs.final limitedLeave tab (leaves user desktop before) = some settled)
    (grantsAgain : Runs.Along limitedLeave GrantsLeave settled (leaves user desktop after))
    (second : Runs.final limitedLeave settled (leaves user desktop after) = some last) :
    ∃ left again, settled.Shows left ∧ last.Shows again ∧
      left.window = view.window.setSize left.window.width left.window.height ∧
      left.rcClip = view.rcClip ∧ (view.lockRatio = false → left.window = view.window) ∧
      again.window = left.window ∧ again.rcClip = left.rcClip ∧
      last.fields.edits = settled.fields.edits := by
  have fitting : view.Fitting desktop := ⟨fits .editWindowXPos, fits .editWindowYPos,
    fun idFrom _ => fits idFrom, screen, within, Or.inl small⟩
  obtain ⟨left, shownLeft, fittingLeft, gone⟩ := final_leaves shows fitting grants first
  obtain ⟨again, shownAgain, -, goneAgain⟩ := final_leaves shownLeft fittingLeft grantsAgain second
  obtain ⟨widthSettled, heightSettled⟩ := settled_of_left gone.sides width height
  have sidesAgain := goneAgain.sides
  rw [gone.lockRatio, MiniView.shownWidth_congr gone.clipped gone.rcClip,
    MiniView.shownHeight_congr gone.clipped gone.rcClip,
    leaveSizes_of_settled widthSettled heightSettled] at sidesAgain
  have windowAgain : again.window = left.window := by
    rw [goneAgain.window] at sidesAgain ⊢
    exact setSize_of_sides sidesAgain
  refine ⟨left, again, shownLeft, shownAgain, gone.window, gone.rcClip, ?_, windowAgain,
    goneAgain.rcClip, ?_⟩
  · intro unlocked
    have sides := gone.sides
    rw [unlocked, leaveSizes_unlocked] at sides
    rw [gone.window] at sides ⊢
    exact setSize_of_sides sides
  · funext idFrom
    rw [shownAgain.edits, shownLeft.edits]
    have same : again.editNum idFrom = left.editNum idFrom := by
      cases idFrom <;> simp only [MiniView.editNum, windowAgain, goneAgain.rcClip]
    rw [same]

/-- The tab with a view that was dropped on a full screen. -/
def droppedTab : ViewsTab :=
  let overlay := { MiniViews.init 175 with currMiniViews := [MiniView.droppedView] }
  let empty := ⟨fun _ => .showing [], fun _ => false, false, false⟩
  ViewsTab.refreshFields ⟨overlay, some 1, empty⟩

theorem boxes_settle_dropped :
    ∃ settled last left again,
      Runs.final limitedLeave droppedTab (leaves MiniView.lockedUser MiniView.fullDesktop
        [.editWindowWidth, .editWindowHeight]) = some settled ∧
      Runs.final limitedLeave settled (leaves MiniView.lockedUser MiniView.fullDesktop
        [.editWindowHeight, .editWindowXPos, .editWindowWidth]) = some last ∧
      settled.Shows left ∧ last.Shows again ∧ again.window = left.window := by
  have shows : droppedTab.Shows MiniView.droppedView := refreshFields_shows rfl fun _ => rfl
  have fits : ∀ idFrom, IntegralType.int.Fits (MiniView.droppedView.editNum idFrom) := by
    intro idFrom
    cases idFrom <;> exact ⟨by decide, by decide⟩
  have unclipped : MiniView.droppedView.ClipsWithin MiniView.fullDesktop :=
    fun clipped => absurd clipped (by decide)
  obtain ⟨settled, last, first, grantsAgain, second⟩ : ∃ settled last,
      Runs.final limitedLeave droppedTab (leaves MiniView.lockedUser MiniView.fullDesktop
        [.editWindowWidth, .editWindowHeight]) = some settled ∧
      Runs.Along limitedLeave GrantsLeave settled (leaves MiniView.lockedUser MiniView.fullDesktop
        [.editWindowHeight, .editWindowXPos, .editWindowWidth]) ∧
      Runs.final limitedLeave settled (leaves MiniView.lockedUser MiniView.fullDesktop
        [.editWindowHeight, .editWindowXPos, .editWindowWidth]) = some last :=
    ⟨_, _, rfl, by decide, rfl⟩
  have screen : MiniView.droppedView.ShowsScreen MiniView.fullDesktop :=
    ⟨by decide, by decide, by decide, by decide⟩
  obtain ⟨left, again, shownLeft, shownAgain, -, -, -, same, -⟩ :=
    boxes_settle shows fits ⟨by decide, by decide⟩ screen unclipped (by simp) (by simp)
      (by decide) first grantsAgain second
  exact ⟨settled, last, left, again, first, second, shownLeft, shownAgain, same⟩

end ViewsTab

end LeanMiniViews
