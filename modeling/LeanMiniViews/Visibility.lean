import LeanMiniViews.MiniViewFrames
import LeanMiniViews.Runs

/-!
When the window of a MiniView is shown. Five flags decide it, and every operation of a view is
one of five moves on them or leaves them alone.
-/

namespace LeanMiniViews

structure Flags where
  editMode : Bool
  hideWhenSourceOnTop : Bool
  hiddenBySourceOnTop : Bool
  hiddenByParent : Bool
  visible : Bool
deriving DecidableEq, Repr

inductive FlagEvent where
  | setEditMode (newStatus : Bool)
  | toggleHideWhenSourceOnTop (isSourceOnTop : Bool)
  | check (isSourceOnTop : Bool)
  | showByParentRequest
  | hideByParentRequest
deriving DecidableEq, Repr

namespace Flags

def setEditMode (flags : Flags) (newStatus : Bool) : Flags :=
  { flags with editMode := newStatus, visible := newStatus || flags.visible }

def check (flags : Flags) (isSourceOnTop : Bool) : Flags :=
  if flags.hideWhenSourceOnTop && flags.hiddenBySourceOnTop != isSourceOnTop then
    { flags with
      hiddenBySourceOnTop := isSourceOnTop
      visible := if isSourceOnTop then flags.editMode && flags.visible
        else !flags.hiddenByParent || flags.visible }
  else flags

def toggleHideWhenSourceOnTop (flags : Flags) (isSourceOnTop : Bool) : Flags :=
  let shown :=
    if flags.hideWhenSourceOnTop && flags.hiddenBySourceOnTop then
      { flags with visible := true, hiddenBySourceOnTop := false }
    else flags
  { shown with hideWhenSourceOnTop := !shown.hideWhenSourceOnTop }.check isSourceOnTop

def showByParentRequest (flags : Flags) : Flags :=
  { flags with
    visible := flags.hiddenByParent && !flags.hiddenBySourceOnTop || flags.visible
    hiddenByParent := false }

def hideByParentRequest (flags : Flags) : Flags :=
  { flags with visible := flags.hiddenByParent && flags.visible, hiddenByParent := true }

def step (flags : Flags) : FlagEvent → Flags
  | .setEditMode newStatus => flags.setEditMode newStatus
  | .toggleHideWhenSourceOnTop isSourceOnTop => flags.toggleHideWhenSourceOnTop isSourceOnTop
  | .check isSourceOnTop => flags.check isSourceOnTop
  | .showByParentRequest => flags.showByParentRequest
  | .hideByParentRequest => flags.hideByParentRequest

end Flags

namespace MiniView

def flags (view : MiniView) : Flags :=
  ⟨view.editMode, view.hideWhenSourceOnTop, view.hiddenBySourceOnTop, view.hiddenByParent,
    view.window.visible⟩

def flagEvent (call : Call) : Option FlagEvent :=
  match call.op with
  | .setEditMode newStatus => some (.setEditMode newStatus)
  | .toggleHideWhenSourceOnTop => some (.toggleHideWhenSourceOnTop call.desktop.sourceOnTop)
  | .validateProperties =>
      if call.desktop.source.isSome then some (.check call.desktop.sourceOnTop) else none
  | .showByParentRequest => some .showByParentRequest
  | .hideByParentRequest => some .hideByParentRequest
  | _ => none

/-! The operations on the flags. -/

theorem setEditMode_flags (view : MiniView) (desktop : Desktop) (newStatus : Bool) :
    (view.setEditMode desktop newStatus).flags = view.flags.setEditMode newStatus := by
  cases newStatus <;> rfl

theorem checkHideBySourceOnTop_flags (view : MiniView) (isSourceOnTop : Bool) :
    (view.checkHideBySourceOnTop isSourceOnTop).flags = view.flags.check isSourceOnTop := by
  cases hides : view.hideWhenSourceOnTop with
  | false => simp [checkHideBySourceOnTop, Flags.check, flags, hides]
  | true =>
      cases hidden : view.hiddenBySourceOnTop <;> cases isSourceOnTop
      · simp [checkHideBySourceOnTop, Flags.check, flags, hides, hidden]
      · cases edit : view.editMode <;>
          simp [checkHideBySourceOnTop, Flags.check, flags, hides, hidden, edit,
            Window.hideWindow]
      · cases parent : view.hiddenByParent <;>
          simp [checkHideBySourceOnTop, Flags.check, flags, hides, hidden, parent,
            Window.showWindow]
      · simp [checkHideBySourceOnTop, Flags.check, flags, hides, hidden]

theorem toggleHideWhenSourceOnTop_flags (view : MiniView) (isSourceOnTop : Bool) :
    (view.toggleHideWhenSourceOnTop isSourceOnTop).flags =
      view.flags.toggleHideWhenSourceOnTop isSourceOnTop := by
  simp only [toggleHideWhenSourceOnTop, checkHideBySourceOnTop_flags,
    Flags.toggleHideWhenSourceOnTop]
  congr 1
  cases hides : view.hideWhenSourceOnTop <;> cases hidden : view.hiddenBySourceOnTop <;>
    simp [flags, hides, hidden, Window.showWindow]

theorem showByParentRequest_flags (view : MiniView) :
    view.showByParentRequest.flags = view.flags.showByParentRequest := by
  cases parent : view.hiddenByParent <;> cases hidden : view.hiddenBySourceOnTop <;>
    simp [showByParentRequest, Flags.showByParentRequest, flags, parent, hidden,
      Window.showWindow]

theorem hideByParentRequest_flags (view : MiniView) :
    view.hideByParentRequest.flags = view.flags.hideByParentRequest := by
  cases parent : view.hiddenByParent <;>
    simp [hideByParentRequest, Flags.hideByParentRequest, flags, parent, Window.hideWindow]

theorem fixRatio_flags (view : MiniView) (desktop : Desktop) :
    (view.fixRatio desktop).flags = view.flags := by
  rw [fixRatio_eq]
  rfl

theorem matchSource_flags (view : MiniView) (desktop : Desktop) (matchPos matchSize : Bool) :
    (view.matchSource desktop matchPos matchSize).flags = view.flags := by
  rw [matchSource_eq]
  simp [flags]

theorem matchSourceByDefault_flags (view : MiniView) (user : MiniViewUser) (desktop : Desktop) :
    (view.matchSourceByDefault user desktop).flags = view.flags := by
  simp only [matchSourceByDefault]
  split
  · exact matchSource_flags _ _ _ _
  · rfl

theorem setClip_flags (view : MiniView) (user : MiniViewUser) (desktop : Desktop)
    (isClipped : Bool) (left top right bottom : Int) :
    (view.setClip user desktop isClipped left top right bottom).flags = view.flags := by
  have fixed : ∀ chosen : MiniView,
      ((chosen.matchSourceByDefault user desktop).fixRatio desktop).flags = chosen.flags :=
    fun chosen => (fixRatio_flags _ _).trans (matchSourceByDefault_flags _ _ _)
  simp only [setClip]
  split
  · split
    · exact fixed { view with clipped := true, rcClip := ⟨left, top, right, bottom⟩ }
    · exact fixed { view with clipped := true, rcClip := ⟨left, top, right, bottom⟩ }
  · rfl

theorem clearClipRegion_flags (view : MiniView) (desktop : Desktop) :
    (view.clearClipRegion desktop).flags = view.flags := by
  simp only [clearClipRegion, fixRatio_flags]
  split <;> rfl

theorem validateProperties_flags (view : MiniView) (desktop : Desktop) :
    (view.validateProperties desktop).flags =
      if desktop.source.isSome then view.flags.check desktop.sourceOnTop else view.flags := by
  simp only [validateProperties]
  split
  · rw [← checkHideBySourceOnTop_flags]
    split
    · split
      · exact fixRatio_flags _ _
      · exact fixRatio_flags _ _
    · rfl
  · rfl

theorem sizing_flags (view : MiniView) (desktop : Desktop) (edge : SizingEdge) (rect : Rect) :
    (view.sizing desktop edge rect).flags = view.flags := by
  simp only [sizing, doSizing]
  split <;> rfl

theorem step_flags {view next : MiniView} {call : Call} (stepped : next ∈ view.step call) :
    next.flags = (flagEvent call).elim view.flags view.flags.step := by
  obtain ⟨user, desktop, op⟩ := call
  cases op with
  | setClip isClipped rect =>
      cases stepped
      exact setClip_flags _ _ _ _ _ _ _ _
  | clearClipRegion =>
      cases stepped
      exact clearClipRegion_flags _ _
  | setEditMode newStatus =>
      cases stepped
      exact setEditMode_flags _ _ _
  | validateProperties =>
      cases stepped
      rw [validateProperties_flags]
      simp only [flagEvent]
      split <;> rfl
  | showByParentRequest =>
      cases stepped
      exact showByParentRequest_flags _
  | hideByParentRequest =>
      cases stepped
      exact hideByParentRequest_flags _
  | toggleHideWhenSourceOnTop =>
      cases stepped
      exact toggleHideWhenSourceOnTop_flags _ _
  | toggleLockRatio =>
      cases stepped
      exact fixRatio_flags _ _
  | matchSource matchPos matchSize =>
      cases stepped
      exact matchSource_flags _ _ _ _
  | doSizing edge rect =>
      cases stepped
      exact sizing_flags _ _ _ _
  | sizeFinished =>
      cases stepped
      simp only [sizeFinished]
      split <;> rfl
  | adjustCliWidth newCliWidth =>
      cases stepped
      simp only [adjustCliWidth]
      split <;> rfl
  | adjustCliHeight newCliHeight =>
      cases stepped
      simp only [adjustCliHeight]
      split <;> rfl
  | frameArrived contentSize =>
      obtain ⟨mirror, -, rfl⟩ := Option.map_eq_some_iff.mp stepped
      rfl
  | adjustClipTop newTop => cases stepped; rfl
  | adjustClipLeft newLeft => cases stepped; rfl
  | adjustClipRight newRight => cases stepped; rfl
  | adjustClipBottom newBottom => cases stepped; rfl
  | adjustWindowLeft newLeft => cases stepped; rfl
  | adjustWindowTop newTop => cases stepped; rfl

end MiniView

/-! Without parent requests. -/

namespace Flags

@[simp] theorem check_editMode (flags : Flags) (isSourceOnTop : Bool) :
    (flags.check isSourceOnTop).editMode = flags.editMode := by
  simp only [check]
  split <;> rfl

@[simp] theorem check_hideWhenSourceOnTop (flags : Flags) (isSourceOnTop : Bool) :
    (flags.check isSourceOnTop).hideWhenSourceOnTop = flags.hideWhenSourceOnTop := by
  simp only [check]
  split <;> rfl

@[simp] theorem check_hiddenByParent (flags : Flags) (isSourceOnTop : Bool) :
    (flags.check isSourceOnTop).hiddenByParent = flags.hiddenByParent := by
  simp only [check]
  split <;> rfl

end Flags

def FlagEvent.IsOwn : FlagEvent → Prop
  | .showByParentRequest => False
  | .hideByParentRequest => False
  | _ => True

namespace Flags

structure Justified (flags : Flags) : Prop where
  released : flags.hiddenByParent = false
  reason : flags.visible = false →
    flags.editMode = false ∧ flags.hideWhenSourceOnTop = true ∧ flags.hiddenBySourceOnTop = true

theorem Justified.check {flags : Flags} (justified : flags.Justified) (isSourceOnTop : Bool) :
    (flags.check isSourceOnTop).Justified := by
  obtain ⟨released, reason⟩ := justified
  obtain ⟨editMode, hides, hidden, parent, visible⟩ := flags
  subst released
  cases isSourceOnTop <;> cases hides <;> cases hidden <;>
    refine ⟨rfl, ?_⟩ <;> simp_all [Flags.check]

theorem Justified.step {flags : Flags} (justified : flags.Justified) {event : FlagEvent}
    (own : event.IsOwn) : (flags.step event).Justified := by
  cases event with
  | setEditMode newStatus =>
      refine ⟨justified.released, ?_⟩
      intro invisible
      simp only [Flags.step, setEditMode, Bool.or_eq_false_iff] at invisible ⊢
      exact ⟨invisible.1, (justified.reason invisible.2).2⟩
  | toggleHideWhenSourceOnTop isSourceOnTop =>
      refine Justified.check ⟨?_, ?_⟩ isSourceOnTop
      · dsimp only
        split <;> exact justified.released
      · dsimp only
        split
        · intro invisible
          cases invisible
        · rename_i shown
          intro invisible
          obtain ⟨-, hides, hidden⟩ := justified.reason invisible
          simp [hides, hidden] at shown
  | check isSourceOnTop => exact justified.check isSourceOnTop
  | showByParentRequest => cases own
  | hideByParentRequest => cases own

theorem step_hiddenByParent (flags : Flags) {event : FlagEvent} (own : event.IsOwn) :
    (flags.step event).hiddenByParent = flags.hiddenByParent := by
  cases event with
  | setEditMode newStatus => rfl
  | toggleHideWhenSourceOnTop isSourceOnTop =>
      simp only [Flags.step, toggleHideWhenSourceOnTop, check_hiddenByParent]
      split <;> rfl
  | check isSourceOnTop => exact check_hiddenByParent _ _
  | showByParentRequest => cases own
  | hideByParentRequest => cases own

def Wanted (flags : Flags) (isSourceOnTop : Bool) : Prop :=
  flags.visible = true ↔
    flags.editMode = true ∨ flags.hideWhenSourceOnTop = false ∨ isSourceOnTop = false

instance (flags : Flags) (isSourceOnTop : Bool) : Decidable (flags.Wanted isSourceOnTop) :=
  inferInstanceAs (Decidable (_ ↔ _))

def Stale (flags : Flags) : Prop :=
  flags.visible = true ∧ flags.editMode = false ∧ flags.hideWhenSourceOnTop = true ∧
    flags.hiddenBySourceOnTop = true

instance (flags : Flags) : Decidable flags.Stale := inferInstanceAs (Decidable (_ ∧ _))

theorem check_wanted_iff {flags : Flags} (justified : flags.Justified) (isSourceOnTop : Bool) :
    (flags.check isSourceOnTop).Wanted isSourceOnTop ↔
      ¬ (flags.Stale ∧ isSourceOnTop = true) := by
  obtain ⟨released, reason⟩ := justified
  obtain ⟨editMode, hides, hidden, parent, visible⟩ := flags
  subst released
  cases isSourceOnTop <;> cases hides <;> cases hidden <;> cases editMode <;> cases visible <;>
    simp_all [Flags.check, Wanted, Stale]

def LeavesShown (flags : Flags) : FlagEvent → Prop
  | .setEditMode newStatus =>
      newStatus = false ∧ flags.editMode = true ∧ flags.hideWhenSourceOnTop = true ∧
        flags.hiddenBySourceOnTop = true
  | .toggleHideWhenSourceOnTop isSourceOnTop =>
      isSourceOnTop = true ∧ flags.editMode = false ∧ flags.hideWhenSourceOnTop = false ∧
        flags.hiddenBySourceOnTop = true
  | _ => False

instance (flags : Flags) : ∀ event, Decidable (flags.LeavesShown event)
  | .setEditMode _ | .toggleHideWhenSourceOnTop _ => by
      unfold LeavesShown
      infer_instance
  | .check _ | .showByParentRequest | .hideByParentRequest => isFalse id

theorem stale_origin {flags : Flags} {event : FlagEvent} (own : event.IsOwn)
    (fresh : ¬ flags.Stale) (stale : (flags.step event).Stale) : flags.LeavesShown event := by
  obtain ⟨editMode, hides, hidden, parent, visible⟩ := flags
  cases event with
  | setEditMode newStatus =>
      cases newStatus <;> cases editMode <;>
        simp_all [Flags.step, setEditMode, Stale, LeavesShown]
  | toggleHideWhenSourceOnTop isSourceOnTop =>
      cases isSourceOnTop <;> cases hides <;> cases hidden <;> cases editMode <;>
        simp_all [Flags.step, toggleHideWhenSourceOnTop, Flags.check, Stale, LeavesShown]
  | check isSourceOnTop =>
      cases isSourceOnTop <;> cases hides <;> cases hidden <;> cases editMode <;>
        simp_all [Flags.step, Flags.check, Stale]
  | showByParentRequest => cases own
  | hideByParentRequest => cases own

end Flags

namespace MiniView

theorem IsOwn.flagEvent {call : Call} (own : IsOwn call) {event : FlagEvent}
    (moves : flagEvent call = some event) : event.IsOwn := by
  obtain ⟨user, desktop, op⟩ := call
  cases op <;> simp [MiniView.flagEvent] at moves
  case showByParentRequest => exact absurd rfl own.1
  case hideByParentRequest => exact absurd rfl own.2
  case validateProperties =>
    obtain ⟨-, rfl⟩ := moves
    trivial
  all_goals
    subst moves
    trivial

theorem createThis_justified (user : MiniViewUser) (hWnd sourceHandle : HWND) (start : Desktop)
    (xc yc : Int) (frame : Frame) :
    ((init user).createThis hWnd sourceHandle start xc yc frame).flags.Justified :=
  ⟨rfl, fun invisible => by cases invisible⟩

theorem step_justified {view next : MiniView} {call : Call} (justified : view.flags.Justified)
    (own : IsOwn call) (stepped : next ∈ view.step call) : next.flags.Justified := by
  rw [step_flags stepped]
  cases moves : flagEvent call with
  | none => exact justified
  | some event => exact justified.step (own.flagEvent moves)

theorem step_hiddenByParent {view next : MiniView} {call : Call} (own : IsOwn call)
    (stepped : next ∈ view.step call) : next.hiddenByParent = view.hiddenByParent := by
  have moved := congrArg Flags.hiddenByParent (step_flags stepped)
  cases moves : flagEvent call with
  | none =>
      rw [moves] at moved
      exact moved
  | some event =>
      rw [moves] at moved
      exact moved.trans (view.flags.step_hiddenByParent (own.flagEvent moves))

def ShownAsWanted (call : Call) (next : MiniView) : Prop :=
  call.op = .validateProperties → call.desktop.source.isSome = true →
    next.flags.Wanted call.desktop.sourceOnTop

instance (call : Call) (next : MiniView) : Decidable (ShownAsWanted call next) :=
  inferInstanceAs (Decidable (_ → _ → _))

/-- A half-second check finds the source on top of a view that is stale. -/
def MissesHide (view : MiniView) (call : Call) : Prop :=
  call.op = .validateProperties ∧ call.desktop.source.isSome = true ∧ view.flags.Stale ∧
    call.desktop.sourceOnTop = true

instance (view : MiniView) (call : Call) : Decidable (view.MissesHide call) :=
  inferInstanceAs (Decidable (_ ∧ _))

def LeavesShown (view : MiniView) (call : Call) : Prop :=
  ∃ event ∈ flagEvent call, view.flags.LeavesShown event

theorem shownAsWanted_iff (view : MiniView) (call : Call) (justified : view.flags.Justified) :
    Runs.After step (fun _ call next => ShownAsWanted call next) view call ↔
      ¬ view.MissesHide call := by
  by_cases checks : call.op = .validateProperties ∧ call.desktop.source.isSome = true
  · have stepped : view.step call = some (view.validateProperties call.desktop) := by
      simp only [step, checks.1]
    simp only [Runs.After, stepped, ShownAsWanted, MissesHide, checks, validateProperties_flags,
      Option.mem_def, Option.some.injEq, forall_eq', if_true, true_and, forall_const]
    exact Flags.check_wanted_iff justified call.desktop.sourceOnTop
  · constructor
    · exact fun _ misses => checks ⟨misses.1, misses.2.1⟩
    · exact fun _ next _ op isSource => absurd ⟨op, isSource⟩ checks

theorem stale_step {view next : MiniView} {call : Call} (fresh : ¬ view.flags.Stale)
    (own : IsOwn call) (leaves : ¬ view.LeavesShown call) (stepped : next ∈ view.step call) :
    ¬ next.flags.Stale := by
  rw [step_flags stepped]
  cases moves : flagEvent call with
  | none => exact fresh
  | some event =>
      intro stale
      exact leaves ⟨event, moves, Flags.stale_origin (own.flagEvent moves) fresh stale⟩

/-- Over a run without parent requests every half-second check leaves the window shown exactly
as wanted if no check meets a stale view, and no view gets stale but by leaving the edit mode or
by turning `hideWhenSourceOnTop` on while `hiddenBySourceOnTop` is set. -/
theorem checked_shown_iff (user : MiniViewUser) (hWnd sourceHandle : HWND) (start : Desktop)
    (xc yc : Int) (frame : Frame) (calls : List Call) (own : ∀ call ∈ calls, IsOwn call) :
    let created := (init user).createThis hWnd sourceHandle start xc yc frame
    (Runs.Along step (Runs.After step fun _ call next => ShownAsWanted call next) created calls ↔
      Runs.Along step (fun view call => ¬ view.MissesHide call) created calls) ∧
    (Runs.Along step (fun view call => ¬ view.LeavesShown call) created calls →
      Runs.Along step (Runs.After step fun _ call next => ShownAsWanted call next)
        created calls) := by
  intro created
  have owned : Runs.Along step (fun _ call => IsOwn call) created calls :=
    Runs.along_of_forall fun _ => own
  have justified := createThis_justified user hWnd sourceHandle start xc yc frame
  have exactly : Runs.Along step (Runs.After step fun _ call next => ShownAsWanted call next)
      created calls ↔
      Runs.Along step (fun view call => ¬ view.MissesHide call) created calls :=
    Runs.along_iff_of_invariant (fun view call held _ => shownAsWanted_iff view call held)
      (fun view call held own _ next stepped => step_justified held own stepped) justified owned
  refine ⟨exactly, ?_⟩
  intro leaves
  rw [exactly]
  have fresh : ¬ created.flags.Stale := by
    simp [created, createThis, setEditMode, flags, Flags.Stale]
  have kept : ∀ (view : MiniView) (call : Call), ¬ view.flags.Stale →
      (IsOwn call ∧ ¬ view.LeavesShown call) → ∀ next ∈ view.step call, ¬ next.flags.Stale :=
    fun view call fresh allowed next stepped => stale_step fresh allowed.1 allowed.2 stepped
  have gives : ∀ (view : MiniView) (call : Call), ¬ view.flags.Stale →
      (IsOwn call ∧ ¬ view.LeavesShown call) → ¬ view.MissesHide call :=
    fun view call fresh _ misses => fresh misses.2.2.1
  exact Runs.along_of_invariant kept gives fresh (Runs.along_and owned leaves)

def hidingUser : MiniViewUser := ⟨false, false, false, true⟩

def onTopDesktop : Desktop := ⟨some ⟨0, 0, 60, 60⟩, true, ⟨none, ⟨60, 60⟩⟩, 0, 0⟩

theorem checked_shown_iff_hidingUser :
    let created := (init hidingUser).createThis 1 0 onTopDesktop 0 0 Frame.none
    let calls : List Call :=
      [⟨hidingUser, { onTopDesktop with sourceOnTop := false }, .validateProperties⟩,
        ⟨hidingUser, onTopDesktop, .setEditMode false⟩,
        ⟨hidingUser, onTopDesktop, .validateProperties⟩]
    (Runs.Along step (Runs.After step fun _ call next => ShownAsWanted call next) created calls ↔
      Runs.Along step (fun view call => ¬ view.MissesHide call) created calls) ∧
    (Runs.Along step (fun view call => ¬ view.LeavesShown call) created calls →
      Runs.Along step (Runs.After step fun _ call next => ShownAsWanted call next)
        created calls) :=
  checked_shown_iff hidingUser 1 0 onTopDesktop 0 0 Frame.none _ (by decide)

theorem checked_shown_firstCheck :
    ¬ ∀ (user : MiniViewUser) (start : Desktop) (calls : List Call),
      (∀ call ∈ calls, IsOwn call) →
      Runs.Along step (Runs.After step fun _ call next => ShownAsWanted call next)
        ((init user).createThis 1 0 start 0 0 Frame.none) calls := by
  intro claim
  have shown := claim hidingUser onTopDesktop
    [⟨hidingUser, onTopDesktop, .setEditMode false⟩,
      ⟨hidingUser, onTopDesktop, .validateProperties⟩] (by decide)
  revert shown
  decide

end MiniView

/-! Between two parent requests. -/

namespace Flags

def lastHidden (flags : Flags) (answers : List Bool) : Bool :=
  if flags.hideWhenSourceOnTop then answers.getLastD flags.hiddenBySourceOnTop
  else flags.hiddenBySourceOnTop

theorem check_off {flags : Flags} (off : flags.hideWhenSourceOnTop = false)
    (isSourceOnTop : Bool) : flags.check isSourceOnTop = flags := by
  simp [check, off]

theorem check_same (flags : Flags) : flags.check flags.hiddenBySourceOnTop = flags := by
  simp [check]

theorem check_hidden {flags : Flags} (hides : flags.hideWhenSourceOnTop = true)
    (isSourceOnTop : Bool) : (flags.check isSourceOnTop).hiddenBySourceOnTop = isSourceOnTop := by
  simp only [check, hides, Bool.true_and]
  split
  · rfl
  · rename_i same
    simpa using same

theorem foldl_check_off {flags : Flags} (off : flags.hideWhenSourceOnTop = false)
    (answers : List Bool) : answers.foldl check flags = flags := by
  induction answers with
  | nil => rfl
  | cons answer rest ih => rw [List.foldl_cons, check_off off, ih]

theorem foldl_check_hidden (flags : Flags) (answers : List Bool) :
    (answers.foldl check flags).hiddenBySourceOnTop = flags.lastHidden answers ∧
      (answers.foldl check flags).hiddenByParent = flags.hiddenByParent := by
  cases hides : flags.hideWhenSourceOnTop with
  | false => simp [foldl_check_off hides, lastHidden, hides]
  | true =>
      induction answers generalizing flags with
      | nil => simp [lastHidden]
      | cons answer rest ih =>
          rw [List.foldl_cons]
          have next := ih (flags.check answer) (by simpa using hides)
          simpa [lastHidden, hides, check_hidden hides, List.getLast?_cons] using next

theorem foldl_check_heldByParent {flags : Flags} (held : flags.hiddenByParent = true)
    (invisible : flags.visible = false) (answers : List Bool) :
    (answers.foldl check flags).visible = false := by
  induction answers generalizing flags with
  | nil => exact invisible
  | cons answer rest ih =>
      refine ih (by simpa using held) ?_
      simp only [check]
      split
      · cases answer <;> simp [held, invisible]
      · exact invisible

theorem foldl_check_editMode {flags : Flags} (edit : flags.editMode = true)
    (released : flags.hiddenByParent = false) (visible : flags.visible = true)
    (answers : List Bool) : (answers.foldl check flags).visible = true := by
  induction answers generalizing flags with
  | nil => exact visible
  | cons answer rest ih =>
      refine ih (by simpa using edit) (by simpa using released) ?_
      simp only [check]
      split
      · cases answer <;> simp [edit, released, visible]
      · exact visible

theorem foldl_check_follows {flags : Flags} (edit : flags.editMode = false)
    (released : flags.hiddenByParent = false)
    (follows : flags.visible = !flags.hiddenBySourceOnTop) (answers : List Bool) :
    (answers.foldl check flags).visible =
      !(answers.foldl check flags).hiddenBySourceOnTop := by
  induction answers generalizing flags with
  | nil => exact follows
  | cons answer rest ih =>
      refine ih (by simpa using edit) (by simpa using released) ?_
      simp only [check]
      split
      · cases answer <;> simp [edit, released]
      · exact follows

theorem foldl_check_outsideEdit {flags : Flags} (edit : flags.editMode = false)
    (released : flags.hiddenByParent = false) (answers : List Bool) :
    (answers.foldl check flags).visible = !(answers.foldl check flags).hiddenBySourceOnTop ↔
      (flags.hideWhenSourceOnTop = true ∧ ∃ answer ∈ answers, answer ≠ flags.hiddenBySourceOnTop) ∨
        flags.visible = !flags.hiddenBySourceOnTop := by
  cases hides : flags.hideWhenSourceOnTop with
  | false => simp [foldl_check_off hides]
  | true =>
      induction answers with
      | nil => simp
      | cons answer rest ih =>
          rw [List.foldl_cons]
          by_cases same : answer = flags.hiddenBySourceOnTop
          · subst same
            rw [check_same, ih]
            simp
          · have follows : (flags.check answer).visible =
                !(flags.check answer).hiddenBySourceOnTop := by
              simp only [check, hides, Bool.true_and]
              split
              · cases answer <;> simp [edit, released]
              · rename_i unchanged
                exact absurd (by simpa using unchanged) (Ne.symm same)
            have later := foldl_check_follows (by simpa using edit) (by simpa using released)
              follows rest
            simp [later, same]

/-- What a view must find so that hiding it and showing it again changes nothing. -/
def Recovers (flags : Flags) (answers : List Bool) : Prop :=
  if flags.editMode then flags.lastHidden answers = false
  else
    (flags.hideWhenSourceOnTop = true ∧ ∃ answer ∈ answers, answer ≠ flags.hiddenBySourceOnTop) ∨
      flags.visible = !flags.hiddenBySourceOnTop

theorem parentRequest_visible {flags : Flags} (released : flags.hiddenByParent = false)
    (answers : List Bool) :
    (answers.foldl check flags.hideByParentRequest).showByParentRequest.visible =
      !flags.lastHidden answers := by
  have held : flags.hideByParentRequest.hiddenByParent = true := rfl
  have invisible : flags.hideByParentRequest.visible = false := by
    simp [hideByParentRequest, released]
  obtain ⟨hidden, parent⟩ := foldl_check_hidden flags.hideByParentRequest answers
  simp only [showByParentRequest, hidden, parent, held,
    foldl_check_heldByParent held invisible answers, Bool.true_and, Bool.or_false]
  rfl

theorem recovers_iff {flags : Flags} (justified : flags.Justified) (answers : List Bool) :
    (answers.foldl check flags.hideByParentRequest).showByParentRequest.visible =
        (answers.foldl check flags).visible ↔
      flags.Recovers answers := by
  rw [parentRequest_visible justified.released, Recovers]
  cases edit : flags.editMode with
  | true =>
      have visible : flags.visible = true := by
        by_contra invisible
        have reason := justified.reason (by simpa using invisible)
        simp [reason.1] at edit
      rw [foldl_check_editMode edit justified.released visible]
      simp
  | false =>
      rw [← (foldl_check_hidden flags answers).1, eq_comm,
        foldl_check_outsideEdit edit justified.released]
      simp

end Flags

namespace MiniView

def halfSecondChecks (view : MiniView) (desktops : List Desktop) : MiniView :=
  desktops.foldl validateProperties view

def answers (desktops : List Desktop) : List Bool :=
  (desktops.filter fun desktop => desktop.source.isSome).map fun desktop => desktop.sourceOnTop

theorem halfSecondChecks_flags (view : MiniView) (desktops : List Desktop) :
    (view.halfSecondChecks desktops).flags = (answers desktops).foldl Flags.check view.flags := by
  induction desktops generalizing view with
  | nil => rfl
  | cons desktop rest ih =>
      have next := ih (view.validateProperties desktop)
      rw [validateProperties_flags] at next
      cases found : desktop.source.isSome <;>
        simpa [halfSecondChecks, answers, found] using next

/-- In every state a view reaches without parent requests, hiding it by the parent, any checks,
and showing it again leave the window as visible as the checks alone, exactly if the view
recovers under their answers. -/
theorem parentRequest_transparent_iff (user : MiniViewUser) (hWnd sourceHandle : HWND)
    (start : Desktop) (xc yc : Int) (frame : Frame) (history : List Call)
    (own : ∀ call ∈ history, IsOwn call) (view : MiniView)
    (reached : Runs.final step ((init user).createThis hWnd sourceHandle start xc yc frame)
      history = some view) (desktops : List Desktop) :
    (view.hideByParentRequest.halfSecondChecks desktops).showByParentRequest.window.visible =
        (view.halfSecondChecks desktops).window.visible ↔
      view.flags.Recovers (answers desktops) := by
  have owned : Runs.Along step (fun _ call => IsOwn call)
      ((init user).createThis hWnd sourceHandle start xc yc frame) history :=
    Runs.along_of_forall fun _ => own
  have kept : ∀ (view : MiniView) (call : Call), view.flags.Justified → IsOwn call →
      ∀ next ∈ view.step call, next.flags.Justified :=
    fun view call justified own next stepped => step_justified justified own stepped
  have justified := Runs.final_of_invariant kept
    (createThis_justified user hWnd sourceHandle start xc yc frame) owned reached
  rw [← Flags.recovers_iff justified, ← hideByParentRequest_flags, ← halfSecondChecks_flags,
    ← halfSecondChecks_flags, ← showByParentRequest_flags]
  rfl

theorem parentRequest_transparent_iff_hidingUser :
    let view := (init hidingUser).createThis 1 0 onTopDesktop 0 0 Frame.none
    let desktops := [{ onTopDesktop with sourceOnTop := false }]
    (view.hideByParentRequest.halfSecondChecks desktops).showByParentRequest.window.visible =
        (view.halfSecondChecks desktops).window.visible ↔
      view.flags.Recovers (answers desktops) :=
  parentRequest_transparent_iff hidingUser 1 0 onTopDesktop 0 0 Frame.none [] (by simp) _ rfl _

/-- A view that never hides is created with `hiddenBySourceOnTop` set, and is not shown again. -/
theorem parentRequest_hides_created :
    ¬ ∀ (user : MiniViewUser) (start : Desktop) (history : List Call) (view : MiniView)
      (desktops : List Desktop), (∀ call ∈ history, IsOwn call) →
      Runs.final step ((init user).createThis 1 0 start 0 0 Frame.none) history = some view →
      (view.hideByParentRequest.halfSecondChecks desktops).showByParentRequest.window.visible =
        (view.halfSecondChecks desktops).window.visible := by
  intro claim
  have same := claim ⟨false, false, false, false⟩ onTopDesktop [] _ [] (by simp) rfl
  revert same
  decide

end MiniView

end LeanMiniViews
