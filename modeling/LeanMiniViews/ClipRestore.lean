import LeanMiniViews.ClipSession
import LeanMiniViews.Visibility

/-! What `SetClipRegion` changes before it asks for the selection window, and who changes it
back. -/

namespace LeanMiniViews

namespace MiniView

def presence (view : MiniView) : Bool × Bool × Bool :=
  (view.hiddenByParent, view.hiddenBySourceOnTop, view.window.visible)

theorem exitSizeMove_hiddenByParent (view : MiniView) (user : MiniViewUser) (desktop : Desktop)
    (target : DropTarget) :
    (view.exitSizeMove user desktop target).hiddenByParent = view.hiddenByParent := by
  simp only [exitSizeMove]
  split
  · simp only [drop]
    refine (congrArg Flags.hiddenByParent (matchSourceByDefault_flags _ user desktop)).trans ?_
    simp only [flags]
    split <;> rfl
  · simp only [sizeFinished]
    split <;> rfl

theorem setClip_hiddenByParent (view : MiniView) (user : MiniViewUser) (desktop : Desktop)
    (isClipped : Bool) (left top right bottom : Int) :
    (view.setClip user desktop isClipped left top right bottom).hiddenByParent =
      view.hiddenByParent :=
  congrArg Flags.hiddenByParent (view.setClip_flags user desktop isClipped left top right bottom)

theorem hideByParentRequest_presence (view : MiniView) :
    view.hideByParentRequest.presence =
      (true, view.hiddenBySourceOnTop, view.hiddenByParent && view.window.visible) := by
  have hidden := view.hideByParentRequest_flags
  exact congrArg (fun flags : Flags =>
    (flags.hiddenByParent, flags.hiddenBySourceOnTop, flags.visible)) hidden

theorem setEditMode_presence (view : MiniView) (desktop : Desktop) :
    (view.setEditMode desktop true).presence =
      (view.hiddenByParent, view.hiddenBySourceOnTop, true) := by
  have shown := view.setEditMode_flags desktop true
  exact congrArg (fun flags : Flags =>
    (flags.hiddenByParent, flags.hiddenBySourceOnTop, flags.visible)) shown

end MiniView

namespace MiniViews

def Released (overlay : MiniViews) : Prop :=
  ∀ view ∈ overlay.currMiniViews, view.hiddenByParent = false

instance (overlay : MiniViews) : Decidable overlay.Released :=
  inferInstanceAs (Decidable (∀ view ∈ overlay.currMiniViews, _))

def SelectionUndone (overlay : MiniViews) : Prop :=
  overlay.clipSel.isOpen = false →
    overlay.Released ∧ overlay.layeredAlpha = overlay.transparencyAlpha

instance (overlay : MiniViews) : Decidable overlay.SelectionUndone :=
  inferInstanceAs (Decidable (_ → _ ∧ _))

def FailureUndone (overlay : MiniViews) (event : Event) (next : MiniViews) : Prop :=
  match event with
  | .setClipRegion _ _ creation =>
      (overlay.clipSel.classWindow.createThis overlay.registeredClasses "ClipSelWindow"
          creation).2.2 = false →
        next.currMiniViews.map MiniView.presence = overlay.currMiniViews.map MiniView.presence ∧
          next.layeredAlpha = overlay.layeredAlpha
  | _ => True

instance (overlay next : MiniViews) : ∀ event, Decidable (overlay.FailureUndone event next)
  | .setClipRegion _ _ _ => by
      unfold FailureUndone
      infer_instance
  | .addMiniView _ _ _ _ _ _ _ | .closeMiniView _ | .clearMiniViews | .lButtonDown _ _
  | .mouseMove _ _ _ | .lButtonUp _ _ _ _ | .toggleEditMode _ | .setOpacityLevel _
  | .incrementAlpha | .decrementAlpha | .exitSizeMove _ _ _ _ | .call _ _ => isTrue trivial

def NothingToUndo (overlay : MiniViews) : Prop :=
  overlay.layeredAlpha = 175 ∧ ∀ view ∈ overlay.currMiniViews,
    view.hiddenByParent = true ∧ (overlay.editMode = true ∨ view.window.visible = true)

instance (overlay : MiniViews) : Decidable overlay.NothingToUndo :=
  inferInstanceAs (Decidable (_ ∧ ∀ view ∈ overlay.currMiniViews, _))

/-- A clip is only asked for where the selection window can be created, or where there is
nothing to undo. -/
def CanUndo (overlay : MiniViews) : Event → Prop
  | .setClipRegion hMiniView _ creation =>
      ∀ _miniView ∈ overlay.lookup hMiniView,
        overlay.clipSel.classWindow.Creates overlay.registeredClasses "ClipSelWindow" creation ∨
          overlay.NothingToUndo
  | _ => True

instance (overlay : MiniViews) : ∀ event, Decidable (overlay.CanUndo event)
  | .setClipRegion _ _ _ => by
      unfold CanUndo
      infer_instance
  | .addMiniView _ _ _ _ _ _ _ | .closeMiniView _ | .clearMiniViews | .lButtonDown _ _
  | .mouseMove _ _ _ | .lButtonUp _ _ _ _ | .toggleEditMode _ | .setOpacityLevel _
  | .incrementAlpha | .decrementAlpha | .exitSizeMove _ _ _ _ | .call _ _ => isTrue trivial

/-! What the operations of the overlay release. -/

theorem Released.update {overlay : MiniViews} (released : overlay.Released) (hMiniView : HWND)
    {change : MiniView → MiniView}
    (kept : ∀ view ∈ overlay.currMiniViews, view.window.hWnd = hMiniView →
      (change view).hiddenByParent = false) :
    (overlay.update hMiniView change).Released := by
  intro _ changed
  obtain ⟨view, member, rfl⟩ := List.mem_map.mp changed
  split
  · rename_i called
    exact kept view member called
  · exact released view member

theorem toggleEditMode_released_iff (overlay : MiniViews) (desktop : Desktop) :
    (overlay.toggleEditMode desktop).Released ↔ overlay.Released := by
  simp only [Released, toggleEditMode, List.forall_mem_map]
  rfl

theorem SelectionUndone.toggleEditMode {overlay : MiniViews} (undone : overlay.SelectionUndone)
    (desktop : Desktop) : (overlay.toggleEditMode desktop).SelectionUndone := by
  intro closed
  obtain ⟨released, opacity⟩ := undone closed
  exact ⟨(overlay.toggleEditMode_released_iff desktop).mpr released, opacity⟩

theorem SelectionUndone.addMiniView {overlay : MiniViews} (undone : overlay.SelectionUndone)
    (user : MiniViewUser) (desktop : Desktop) (desktopWindow : HWND) (xc yc : Int)
    (frame : Frame) (creation : Creation) :
    (overlay.addMiniView user desktop desktopWindow xc yc frame creation).SelectionUndone := by
  obtain ⟨editing, origin, classes, views, added, new⟩ :=
    overlay.addMiniView_cases user desktop desktopWindow xc yc frame creation
  have kept : editing.SelectionUndone := by
    rcases origin with rfl | rfl
    · exact undone
    · exact undone.toggleEditMode desktop
  rw [added]
  intro closed
  obtain ⟨released, opacity⟩ := kept closed
  refine ⟨?_, opacity⟩
  intro view member
  rcases List.mem_append.mp member with old | isNew
  · exact released view old
  · rcases new with rfl | ⟨-, created, rfl, -, shown⟩
    · cases isNew
    · rw [List.mem_singleton.mp isNew]
      exact shown

theorem SelectionUndone.setOpacityLevel {overlay : MiniViews} (undone : overlay.SelectionUndone)
    (newOpacityLevel : UInt8) : (overlay.setOpacityLevel newOpacityLevel).SelectionUndone :=
  fun closed => ⟨(undone closed).1, rfl⟩

theorem endSetClipRegion_released (overlay : MiniViews) (user : MiniViewUser) (desktop : Desktop)
    (hMiniView : HWND) (rcClip : Rect) :
    (overlay.endSetClipRegion user desktop hMiniView rcClip).Released := by
  have shown : ({ overlay with
      clipSel := overlay.clipSel.destroyThis
      currMiniViews := overlay.currMiniViews.map MiniView.showByParentRequest
      layeredAlpha := overlay.transparencyAlpha } : MiniViews).Released := by
    intro view member
    obtain ⟨view, -, rfl⟩ := List.mem_map.mp member
    rfl
  refine shown.update hMiniView fun view member _ => ?_
  rw [MiniView.setClip_hiddenByParent]
  exact shown view member

theorem lookup_current {overlay : MiniViews} {hMiniView : HWND} {view other : MiniView}
    (found : overlay.lookup hMiniView = some view) (member : other ∈ overlay.currMiniViews)
    (called : other.window.hWnd = hMiniView) : view ∈ overlay.currMiniViews := by
  rw [lookup, List.find?_append, Option.or_eq_some_iff] at found
  rcases found with here | ⟨missing, -⟩
  · exact List.mem_of_find?_eq_some here
  · have absent := List.find?_eq_none.mp missing other member
    simp [called] at absent

/-! A request for a clip. -/

theorem setClipRegion_presence (overlay : MiniViews) (miniView : MiniView) (desktop : Desktop)
    (creation : Creation) :
    (overlay.setClipRegion miniView desktop creation).currMiniViews.map MiniView.presence =
      overlay.currMiniViews.map fun view =>
        (true, view.hiddenBySourceOnTop,
          view.hiddenByParent && (!overlay.editMode || view.window.visible)) := by
  simp only [setClipRegion, List.map_map]
  cases edit : overlay.editMode with
  | true =>
      refine List.map_congr_left fun view _ => ?_
      simp [MiniView.hideByParentRequest_presence]
  | false =>
      simp only [Bool.false_eq_true, if_false, toggleEditMode, edit, List.map_map]
      refine List.map_congr_left fun view _ => ?_
      have shown := Prod.mk.inj (view.setEditMode_presence desktop)
      have visible := Prod.mk.inj shown.2
      simp [MiniView.hideByParentRequest_presence, shown.1, visible.1, visible.2]

/-- A refused request leaves everything as it was exactly if there is nothing to undo. -/
theorem setClipRegion_undone_iff (overlay : MiniViews) (miniView : MiniView) (desktop : Desktop)
    (creation : Creation) :
    (overlay.setClipRegion miniView desktop creation).currMiniViews.map MiniView.presence =
          overlay.currMiniViews.map MiniView.presence ∧
        (overlay.setClipRegion miniView desktop creation).layeredAlpha = overlay.layeredAlpha ↔
      overlay.NothingToUndo := by
  have opacity : (overlay.setClipRegion miniView desktop creation).layeredAlpha = 175 := rfl
  rw [setClipRegion_presence, opacity, List.map_inj_left, NothingToUndo, and_comm,
    @eq_comm _ (175 : UInt8)]
  refine and_congr_right fun _ => forall_congr' fun view => forall_congr' fun _ => ?_
  simp only [MiniView.presence, Prod.mk.injEq]
  cases view.hiddenByParent <;> cases overlay.editMode <;> simp

theorem setClipRegion_isOpen (overlay : MiniViews) (miniView : MiniView) (desktop : Desktop)
    (creation : Creation) :
    (overlay.setClipRegion miniView desktop creation).clipSel.isOpen = true ↔
      overlay.clipSel.isOpen = true ∨
        overlay.clipSel.classWindow.Creates overlay.registeredClasses "ClipSelWindow"
          creation := by
  have session := congrArg Option.isSome
    (setClipRegion_session overlay miniView desktop creation)
  rw [ClipSel.isSome_session] at session
  rw [session]
  split
  · simp_all
  · split <;> simp_all

theorem setClipRegion_transparencyAlpha (overlay : MiniViews) (miniView : MiniView)
    (desktop : Desktop) (creation : Creation) :
    (overlay.setClipRegion miniView desktop creation).transparencyAlpha =
      overlay.transparencyAlpha := by
  simp only [setClipRegion]
  split <;> rfl

theorem released_iff_of_presence {overlay next : MiniViews}
    (same : next.currMiniViews.map MiniView.presence =
      overlay.currMiniViews.map MiniView.presence) : next.Released ↔ overlay.Released := by
  have byPresence : ∀ views : MiniViews,
      views.Released ↔ ∀ shown ∈ views.currMiniViews.map MiniView.presence, shown.1 = false := by
    intro views
    rw [List.forall_mem_map]
    rfl
  rw [byPresence, byPresence, same]

theorem setClipRegion_canUndo_iff {overlay : MiniViews} (undone : overlay.SelectionUndone)
    (hMiniView : HWND) (miniView : MiniView) (desktop : Desktop) (creation : Creation) :
    (overlay.setClipRegion miniView desktop creation).SelectionUndone ∧
        overlay.FailureUndone (.setClipRegion hMiniView desktop creation)
          (overlay.setClipRegion miniView desktop creation) ↔
      overlay.clipSel.classWindow.Creates overlay.registeredClasses "ClipSelWindow" creation ∨
        overlay.NothingToUndo := by
  have opens := setClipRegion_isOpen overlay miniView desktop creation
  have unchanged := setClipRegion_undone_iff overlay miniView desktop creation
  rcases overlay.clipSel.classWindow.createThis_cases overlay.registeredClasses "ClipSelWindow"
    (by decide) creation with ⟨creates, -, created⟩ | ⟨fails, -, refused⟩
  · refine iff_of_true ⟨fun closed => ?_, fun refused => ?_⟩ (Or.inl creates)
    · rw [opens.mpr (Or.inr creates)] at closed
      cases closed
    · rw [created] at refused
      cases refused
  · simp only [FailureUndone, refused, forall_const, unchanged, fails, false_or]
    refine and_iff_right_of_imp fun nothing => ?_
    intro closed
    have wasClosed : overlay.clipSel.isOpen = false := by
      by_contra wasOpen
      rw [opens.mpr (Or.inl (by simpa using wasOpen))] at closed
      cases closed
    obtain ⟨released, opacity⟩ := undone wasClosed
    obtain ⟨samePresence, sameOpacity⟩ := unchanged.mpr nothing
    refine ⟨(released_iff_of_presence samePresence).mpr released, ?_⟩
    rw [setClipRegion_transparencyAlpha, sameOpacity, opacity]

/-! Restoring the size of a view before the request. -/

theorem restoreSize_presence (overlay : MiniViews) (hMiniView : HWND) :
    (overlay.update hMiniView MiniView.setClipRegion).currMiniViews.map MiniView.presence =
      overlay.currMiniViews.map MiniView.presence := by
  simp only [update, List.map_map]
  refine List.map_congr_left fun view _ => ?_
  simp only [Function.comp_apply]
  split <;> rfl

theorem restoreSize_selectionUndone {overlay : MiniViews} (undone : overlay.SelectionUndone)
    (hMiniView : HWND) : (overlay.update hMiniView MiniView.setClipRegion).SelectionUndone := by
  intro closed
  obtain ⟨released, opacity⟩ := undone closed
  exact ⟨(released_iff_of_presence (overlay.restoreSize_presence hMiniView)).mpr released, opacity⟩

theorem restoreSize_nothingToUndo_iff (overlay : MiniViews) (hMiniView : HWND) :
    (overlay.update hMiniView MiniView.setClipRegion).NothingToUndo ↔ overlay.NothingToUndo := by
  simp only [NothingToUndo, update, List.forall_mem_map]
  refine and_congr_right fun _ => forall_congr' fun view => forall_congr' fun _ => ?_
  split <;> rfl

theorem restoreSize_failureUndone_iff (overlay : MiniViews) (hMiniView : HWND)
    (desktop : Desktop) (creation : Creation) (next : MiniViews) :
    (overlay.update hMiniView MiniView.setClipRegion).FailureUndone
        (.setClipRegion hMiniView desktop creation) next ↔
      overlay.FailureUndone (.setClipRegion hMiniView desktop creation) next := by
  simp only [FailureUndone, restoreSize_presence]
  rfl

/-! The run. -/

theorem selectionUndone_step {overlay next : MiniViews} {event : Event}
    (undone : overlay.SelectionUndone) (stepped : next ∈ overlay.step event) :
    next.SelectionUndone ∧ overlay.FailureUndone event next ↔ overlay.CanUndo event := by
  have keeps : next.SelectionUndone → overlay.FailureUndone event next → overlay.CanUndo event →
      (next.SelectionUndone ∧ overlay.FailureUndone event next ↔ overlay.CanUndo event) :=
    fun selection failure allowed => iff_of_true ⟨selection, failure⟩ allowed
  cases event with
  | addMiniView user desktop desktopWindow xc yc frame creation =>
      obtain ⟨-, rfl⟩ := step_addMiniView stepped
      exact keeps (undone.addMiniView _ _ _ _ _ _ _) trivial trivial
  | closeMiniView hMiniView =>
      obtain ⟨miniView, -, rfl⟩ := Option.map_eq_some_iff.mp stepped
      refine keeps (fun closed => ?_) trivial trivial
      obtain ⟨released, opacity⟩ := undone closed
      exact ⟨fun view member => released view (List.mem_of_mem_eraseP member), opacity⟩
  | clearMiniViews =>
      cases stepped
      refine keeps (fun closed => ⟨fun view member => ?_, (undone closed).2⟩) trivial trivial
      cases member
  | setClipRegion hMiniView desktop creation =>
      obtain ⟨miniView, found, rfl⟩ := Option.map_eq_some_iff.mp stepped
      have asked := setClipRegion_canUndo_iff (restoreSize_selectionUndone undone hMiniView)
        hMiniView miniView.setClipRegion desktop creation
      rw [restoreSize_failureUndone_iff, restoreSize_nothingToUndo_iff] at asked
      simp only [CanUndo, found, Option.mem_def, Option.some.injEq, forall_eq']
      exact asked
  | lButtonDown xc yc =>
      obtain rfl := step_lButtonDown stepped
      exact keeps undone trivial trivial
  | mouseMove leftButton xc yc =>
      obtain rfl := step_mouseMove stepped
      refine keeps ?_ trivial trivial
      cases leftButton <;> exact undone
  | lButtonUp user desktop xc yc =>
      obtain ⟨hMiniView, -, rfl⟩ := step_lButtonUp stepped
      refine keeps (fun _ => ⟨?_, rfl⟩) trivial trivial
      exact overlay.endSetClipRegion_released user desktop hMiniView _
  | toggleEditMode desktop =>
      cases stepped
      exact keeps (undone.toggleEditMode desktop) trivial trivial
  | setOpacityLevel newOpacityLevel =>
      cases stepped
      exact keeps (undone.setOpacityLevel newOpacityLevel) trivial trivial
  | incrementAlpha =>
      obtain ⟨newOpacityLevel, rfl⟩ := step_incrementAlpha stepped
      exact keeps (undone.setOpacityLevel newOpacityLevel) trivial trivial
  | decrementAlpha =>
      obtain ⟨newOpacityLevel, rfl⟩ := step_decrementAlpha stepped
      exact keeps (undone.setOpacityLevel newOpacityLevel) trivial trivial
  | exitSizeMove hMiniView user desktop target =>
      obtain ⟨_, -, rfl⟩ := Option.map_eq_some_iff.mp stepped
      refine keeps (fun closed => ⟨?_, (undone closed).2⟩) trivial trivial
      refine (undone closed).1.update hMiniView fun view member _ => ?_
      rw [MiniView.exitSizeMove_hiddenByParent]
      exact (undone closed).1 view member
  | call hMiniView call =>
      obtain ⟨own, view, found, changed, called, rfl⟩ := step_call stepped
      refine keeps (fun closed => ⟨?_, (undone closed).2⟩) trivial trivial
      refine (undone closed).1.update hMiniView fun other member named => ?_
      rw [MiniView.step_hiddenByParent own called]
      exact (undone closed).1 view (lookup_current found member named)

theorem canUndo_of_blocked {overlay : MiniViews} {event : Event}
    (blocked : overlay.step event = none) : overlay.CanUndo event := by
  cases event with
  | setClipRegion hMiniView desktop creation =>
      intro miniView found
      rw [Option.map_eq_none_iff.mp blocked] at found
      cases found
  | _ => trivial

theorem selectionUndone_iff (overlay : MiniViews) (event : Event)
    (undone : overlay.SelectionUndone) :
    Runs.After step (fun overlay event next => next.SelectionUndone ∧
        overlay.FailureUndone event next) overlay event ↔ overlay.CanUndo event := by
  apply Runs.after_iff
  · exact canUndo_of_blocked
  · exact fun next stepped => selectionUndone_step undone stepped

/-- Along any run of the overlay, a selection that is not open leaves no view hidden and no
opacity changed, and neither does a request that fails, exactly if every request for a clip
opens the selection or finds nothing to undo. -/
theorem closed_selection_undone_iff (defaultOpacity : UInt8) (events : List Event) :
    Runs.Along step (Runs.After step fun overlay event next => next.SelectionUndone ∧
        overlay.FailureUndone event next) (init defaultOpacity) events ↔
      Runs.Along step CanUndo (init defaultOpacity) events := by
  have initial : (init defaultOpacity).SelectionUndone := by
    refine fun _ => ⟨fun view member => ?_, rfl⟩
    cases member
  refine Runs.along_iff_of_exact selectionUndone_iff ?_ initial
  intro overlay event undone allowed next stepped
  exact ((selectionUndone_step undone stepped).mpr allowed).1

theorem closed_selection_hidesViews :
    ¬ ∀ (defaultOpacity : UInt8) (events : List Event),
      Runs.Along step (Runs.After step fun overlay event next => next.SelectionUndone ∧
        overlay.FailureUndone event next) (init defaultOpacity) events := by
  intro claim
  have undone := claim 255
    [.addMiniView anyUser anyDesktop 1 50 50 Frame.none ⟨true, 2⟩,
      .setClipRegion 2 anyDesktop ⟨false, 0⟩]
  revert undone
  decide

end MiniViews

end LeanMiniViews
