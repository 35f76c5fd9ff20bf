import LeanMiniViews.MiniViewFrames
import LeanMiniViews.OverlayCore
import LeanMiniViews.Runs

/-!
The edit mode has four copies: the overlay's flag, each view's flag, the styles of each view's
window, and the style that lets clicks through the overlay.
-/

namespace LeanMiniViews

namespace MiniView

def InMode (view : MiniView) (editMode : Bool) : Prop :=
  view.editMode = editMode ∧ view.window.editModeStyles = editMode

instance (view : MiniView) (editMode : Bool) : Decidable (view.InMode editMode) :=
  inferInstanceAs (Decidable (_ ∧ _))

theorem SameShell.inMode {view other : MiniView} (same : SameShell view other) {editMode : Bool}
    (mode : view.InMode editMode) : other.InMode editMode :=
  ⟨same.editMode.trans mode.1, same.editModeStyles.trans mode.2⟩

theorem setEditMode_inMode (view : MiniView) (desktop : Desktop) (newStatus : Bool) :
    (view.setEditMode desktop newStatus).InMode newStatus := by
  cases newStatus <;> exact ⟨rfl, rfl⟩

theorem createThis_inMode (view : MiniView) (hWnd sourceHandle : HWND) (desktop : Desktop)
    (xc yc : Int) (editModeFrame : Frame) :
    (view.createThis hWnd sourceHandle desktop xc yc editModeFrame).InMode true :=
  setEditMode_inMode _ _ _

end MiniView

namespace MiniViews

structure Coherent (overlay : MiniViews) : Prop where
  views : ∀ view ∈ overlay.currMiniViews, view.InMode overlay.editMode
  clickThrough : overlay.clickThrough = !overlay.editMode

/-- Every view of `next` is a view of `overlay`, changed but for its mode. -/
def KeepsModes (overlay next : MiniViews) : Prop :=
  ∀ editMode, (∀ view ∈ overlay.currMiniViews, view.InMode editMode) →
    ∀ view ∈ next.currMiniViews, view.InMode editMode

theorem Coherent.kept {overlay next : MiniViews} (coherent : overlay.Coherent)
    (modes : KeepsModes overlay next) (editMode : next.editMode = overlay.editMode)
    (clickThrough : next.clickThrough = overlay.clickThrough) : next.Coherent := by
  refine ⟨?_, ?_⟩
  · rw [editMode]
    exact modes _ coherent.views
  · rw [clickThrough, editMode]
    exact coherent.clickThrough

theorem keepsModes_of_eq {overlay next : MiniViews}
    (same : next.currMiniViews = overlay.currMiniViews) : KeepsModes overlay next := by
  intro editMode views view member
  exact views view (same ▸ member)

theorem keepsModes_of_map {overlay next : MiniViews} {change : MiniView → MiniView}
    (views : next.currMiniViews = overlay.currMiniViews.map change)
    (keeps : ∀ editMode, (∀ view ∈ overlay.currMiniViews, view.InMode editMode) →
      ∀ view ∈ overlay.currMiniViews, (change view).InMode editMode) :
    KeepsModes overlay next := by
  intro editMode modes view member
  rw [views] at member
  obtain ⟨old, oldMember, rfl⟩ := List.mem_map.mp member
  exact keeps editMode modes old oldMember

theorem keepsModes_update (overlay : MiniViews) (hMiniView : HWND) {change : MiniView → MiniView}
    (keeps : ∀ editMode, (∀ view ∈ overlay.currMiniViews, view.InMode editMode) →
      ∀ view ∈ overlay.currMiniViews, view.window.hWnd = hMiniView →
        (change view).InMode editMode) :
    KeepsModes overlay (overlay.update hMiniView change) := by
  refine keepsModes_of_map rfl fun editMode modes view member => ?_
  split
  · rename_i named
    exact keeps editMode modes view member named
  · exact modes view member

/-! The operations. -/

theorem toggleEditMode_coherent (overlay : MiniViews) (desktop : Desktop) :
    (overlay.toggleEditMode desktop).Coherent := by
  refine ⟨?_, ?_⟩
  · intro view member
    obtain ⟨old, -, rfl⟩ := List.mem_map.mp member
    exact old.setEditMode_inMode desktop _
  · simp [toggleEditMode]

theorem editing_coherent {overlay : MiniViews} (coherent : overlay.Coherent)
    (desktop : Desktop) :
    (if overlay.editMode then overlay else overlay.toggleEditMode desktop).Coherent ∧
      (if overlay.editMode then overlay else overlay.toggleEditMode desktop).editMode = true := by
  cases mode : overlay.editMode with
  | true => exact ⟨coherent, mode⟩
  | false => exact ⟨overlay.toggleEditMode_coherent desktop, by simp [toggleEditMode, mode]⟩

theorem addMiniView_coherent {overlay : MiniViews} (coherent : overlay.Coherent)
    (user : MiniViewUser) (desktop : Desktop) (desktopWindow : HWND) (xc yc : Int)
    (editModeFrame : Frame) (creation : Creation) :
    (overlay.addMiniView user desktop desktopWindow xc yc editModeFrame creation).Coherent := by
  obtain ⟨editing, on⟩ := editing_coherent coherent desktop
  have views := editing.views
  rw [on] at views
  simp only [addMiniView]
  generalize (if overlay.editMode = true then overlay else overlay.toggleEditMode desktop) =
    current at on views
  refine ⟨?_, ?_⟩
  · simp only [on]
    split
    · intro view member
      rcases List.mem_append.mp member with old | new
      · exact views view old
      · obtain rfl := List.mem_singleton.mp new
        exact MiniView.createThis_inMode _ _ _ _ _ _ _
    · exact views
  · simp only [on, Bool.not_true]

theorem closeMiniView_coherent {overlay : MiniViews} (coherent : overlay.Coherent)
    (miniView : MiniView) : (overlay.closeMiniView miniView).Coherent := by
  refine coherent.kept ?_ rfl rfl
  intro editMode modes view member
  exact modes view (List.mem_of_mem_eraseP member)

theorem clearMiniViews_coherent {overlay : MiniViews} (coherent : overlay.Coherent) :
    overlay.clearMiniViews.Coherent := by
  refine coherent.kept ?_ rfl rfl
  intro editMode modes view member
  cases member

theorem setClipRegion_coherent {overlay : MiniViews} (coherent : overlay.Coherent)
    (miniView : MiniView) (desktop : Desktop) (creation : Creation) :
    (overlay.setClipRegion miniView desktop creation).Coherent := by
  refine (editing_coherent coherent desktop).1.kept ?_ rfl rfl
  exact keepsModes_of_map rfl fun editMode modes view member =>
    view.hideByParentRequest_sameShell.inMode (modes view member)

theorem endSetClipRegion_coherent {overlay : MiniViews} (coherent : overlay.Coherent)
    (user : MiniViewUser) (desktop : Desktop) (hMiniView : HWND) (rcClip : Rect) :
    (overlay.endSetClipRegion user desktop hMiniView rcClip).Coherent := by
  have shown : ({ overlay with
      clipSel := overlay.clipSel.destroyThis
      currMiniViews := overlay.currMiniViews.map MiniView.showByParentRequest
      layeredAlpha := overlay.transparencyAlpha } : MiniViews).Coherent := by
    refine coherent.kept ?_ rfl rfl
    exact keepsModes_of_map rfl fun editMode modes view member =>
      view.showByParentRequest_sameShell.inMode (modes view member)
  refine shown.kept ?_ rfl rfl
  exact keepsModes_update _ _ fun editMode modes view member _ =>
    (view.setClip_sameShell user desktop true _ _ _ _).inMode (modes view member)

theorem lookup_mem {overlay : MiniViews} {view looked : MiniView}
    (member : view ∈ overlay.currMiniViews)
    (found : overlay.lookup view.window.hWnd = some looked) : looked ∈ overlay.currMiniViews := by
  have exists_current : (overlay.currMiniViews.find? fun other =>
      other.window.hWnd == view.window.hWnd).isSome :=
    List.find?_isSome.mpr ⟨view, member, by simp⟩
  obtain ⟨current, isCurrent⟩ := Option.isSome_iff_exists.mp exists_current
  rw [lookup, List.find?_append, isCurrent] at found
  cases found
  exact List.mem_of_find?_eq_some isCurrent

/-- Only the overlay sets the edit mode of a view that exists. -/
def setsOneView : Event → Bool
  | .call _ ⟨_, _, .setEditMode _⟩ => true
  | _ => false

theorem step_coherent {overlay next : MiniViews} {event : Event} (coherent : overlay.Coherent)
    (through : setsOneView event = false) (stepped : next ∈ overlay.step event) : next.Coherent := by
  cases event with
  | addMiniView user desktop desktopWindow xc yc editModeFrame creation =>
      obtain ⟨-, rfl⟩ := step_addMiniView stepped
      exact addMiniView_coherent coherent _ _ _ _ _ _ _
  | closeMiniView hMiniView =>
      obtain ⟨miniView, -, rfl⟩ := Option.map_eq_some_iff.mp stepped
      exact closeMiniView_coherent coherent miniView
  | clearMiniViews =>
      cases stepped
      exact clearMiniViews_coherent coherent
  | setClipRegion hMiniView desktop creation =>
      obtain ⟨miniView, -, rfl⟩ := Option.map_eq_some_iff.mp stepped
      have updated : (overlay.update hMiniView MiniView.setClipRegion).Coherent :=
        coherent.kept (keepsModes_update _ _ fun _ modes view member _ => modes view member)
          rfl rfl
      exact setClipRegion_coherent updated _ _ _
  | lButtonDown xc yc =>
      obtain rfl := step_lButtonDown stepped
      exact coherent.kept (keepsModes_of_eq rfl) rfl rfl
  | mouseMove leftButton xc yc =>
      obtain rfl := step_mouseMove stepped
      exact coherent.kept (keepsModes_of_eq rfl) rfl rfl
  | lButtonUp user desktop xc yc =>
      obtain ⟨hMiniView, -, rfl⟩ := step_lButtonUp stepped
      have ended := endSetClipRegion_coherent coherent user desktop hMiniView
        (overlay.clipSel.selection xc yc)
      exact ended.kept (keepsModes_of_eq rfl) rfl rfl
  | toggleEditMode desktop =>
      cases stepped
      exact overlay.toggleEditMode_coherent desktop
  | setOpacityLevel newOpacityLevel =>
      cases stepped
      exact coherent.kept (keepsModes_of_eq rfl) rfl rfl
  | incrementAlpha =>
      obtain ⟨newOpacityLevel, rfl⟩ := step_incrementAlpha stepped
      exact coherent.kept (keepsModes_of_eq rfl) rfl rfl
  | decrementAlpha =>
      obtain ⟨newOpacityLevel, rfl⟩ := step_decrementAlpha stepped
      exact coherent.kept (keepsModes_of_eq rfl) rfl rfl
  | exitSizeMove hMiniView user desktop target =>
      obtain ⟨-, -, rfl⟩ := Option.map_eq_some_iff.mp stepped
      refine coherent.kept ?_ rfl rfl
      refine keepsModes_update _ _ fun editMode modes view member _ => ?_
      have kept := view.exitSizeMove_mode user desktop target
      exact ⟨kept.1.trans (modes view member).1, kept.2.trans (modes view member).2⟩
  | call hMiniView call =>
      obtain ⟨-, looked, found, changed, called, rfl⟩ := step_call stepped
      have other : ∀ newStatus, call.op ≠ .setEditMode newStatus := by
        rintro newStatus same
        obtain ⟨user, desktop, op⟩ := call
        cases same
        cases through
      refine coherent.kept ?_ rfl rfl
      refine keepsModes_update _ _ fun editMode modes view member named => ?_
      exact (MiniView.step_sameShell called other).inMode
        (modes looked (lookup_mem member (named ▸ found)))

/-- In every reachable state the four copies agree. -/
theorem reachable_coherent (defaultOpacity : UInt8) (events : List Event)
    (through : ∀ event ∈ events, setsOneView event = false) (overlay : MiniViews)
    (reached : Runs.final step (init defaultOpacity) events = some overlay) :
    overlay.Coherent := by
  have initial : (init defaultOpacity).Coherent :=
    ⟨fun _ member => absurd member List.not_mem_nil, rfl⟩
  have allowed : Runs.Along step (fun _ event => setsOneView event = false) (init defaultOpacity)
      events := Runs.along_of_forall fun _ event member => through event member
  exact Runs.final_of_invariant
    (fun _ _ coherent through next stepped => step_coherent coherent through stepped)
    initial allowed reached

def addToggleClip : List Event :=
  let user : MiniViewUser := ⟨false, false, false, false⟩
  let desktop : Desktop := ⟨some ⟨0, 0, 600, 600⟩, false, ⟨none, ⟨600, 600⟩⟩, 0, 0⟩
  [.addMiniView user desktop 1 50 50 ⟨8, 31, 8, 8⟩ ⟨true, 2⟩, .toggleEditMode desktop,
    .addMiniView user desktop 1 54 74 ⟨8, 31, 8, 8⟩ ⟨true, 0⟩, .toggleEditMode desktop,
    .setClipRegion 2 desktop ⟨true, 3⟩]

theorem reachable_coherent_addToggleClip :
    ((Runs.final step (init 175) addToggleClip).get (by decide)).Coherent :=
  reachable_coherent 175 addToggleClip (by decide) _ (Option.some_get _).symm

end MiniViews

end LeanMiniViews
