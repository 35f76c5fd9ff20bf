import LeanMiniViews.MiniViewFrames
import LeanMiniViews.OverlayCore
import LeanMiniViews.Runs
import Mathlib.Data.List.Nodup

/-! The selection of a clip, from `SetClipRegion` to the mouse button that ends it. -/

namespace LeanMiniViews

/-! Windows of a class. -/

namespace ClassWindow

def Creates (window : ClassWindow) (registeredClasses : List String) (className : String)
    (creation : Creation) : Prop :=
  window.windowsItemHandle = 0 ∧ window.windowClassName = "" ∧
    (className ∈ registeredClasses ∨ creation.registers = true) ∧ creation.handle ≠ 0

instance (window : ClassWindow) (registeredClasses : List String) (className : String)
    (creation : Creation) : Decidable (window.Creates registeredClasses className creation) :=
  inferInstanceAs (Decidable (_ ∧ _))

theorem registerWindowClass_busy {window : ClassWindow}
    (busy : ¬ (window.windowsItemHandle = 0 ∧ window.windowClassName = ""))
    (registeredClasses : List String) (className : String) (registers : Bool) :
    window.registerWindowClass registeredClasses className registers =
      (window, registeredClasses, false) := by
  rw [registerWindowClass, if_neg busy]

theorem createThis_busy {window : ClassWindow}
    (busy : ¬ (window.windowsItemHandle = 0 ∧ window.windowClassName = ""))
    (registeredClasses : List String) (className : String) (creation : Creation) :
    window.createThis registeredClasses className creation =
      (window, registeredClasses, false) := by
  simp [createThis, registerWindowClass_busy busy]

theorem registerWindowClass_idle {window : ClassWindow} (noHandle : window.windowsItemHandle = 0)
    (noName : window.windowClassName = "") (registeredClasses : List String) (className : String)
    (registers : Bool) :
    (className ∈ registeredClasses ∨ registers = true) ∧
        (window.registerWindowClass registeredClasses className registers).1 = ⟨0, className⟩ ∧
        (window.registerWindowClass registeredClasses className registers).2.2 = true ∨
      ¬ (className ∈ registeredClasses ∨ registers = true) ∧
        window.registerWindowClass registeredClasses className registers =
          (window, registeredClasses, false) := by
  obtain ⟨handle, name⟩ := window
  subst noHandle noName
  by_cases found : className ∈ registeredClasses
  · simp [registerWindowClass, windowClassIsRegistered, found]
  · cases registers <;> simp [registerWindowClass, windowClassIsRegistered, found]

theorem createThis_cases (window : ClassWindow) (registeredClasses : List String)
    (className : String) (named : className ≠ "") (creation : Creation) :
    window.Creates registeredClasses className creation ∧
        (window.createThis registeredClasses className creation).1.windowsItemHandle =
          creation.handle ∧
        (window.createThis registeredClasses className creation).2.2 = true ∨
      ¬ window.Creates registeredClasses className creation ∧
        (window.createThis registeredClasses className creation).1.windowsItemHandle =
          window.windowsItemHandle ∧
        (window.createThis registeredClasses className creation).2.2 = false := by
  by_cases idle : window.windowsItemHandle = 0 ∧ window.windowClassName = ""
  · obtain ⟨noHandle, noName⟩ := idle
    rcases registerWindowClass_idle noHandle noName registeredClasses className
      creation.registers with ⟨allowed, item, registered⟩ | ⟨refused, same⟩
    · by_cases created : creation.handle = 0
      · right
        simp [createThis, registered, item, createClassWindow, Creates, created, named, noHandle]
      · left
        simp [createThis, registered, item, createClassWindow, Creates, created, named, noHandle,
          noName, allowed]
    · right
      simp only [createThis, same, Bool.false_eq_true, if_false]
      exact ⟨fun creates => refused creates.2.2.1, trivial, trivial⟩
  · right
    rw [createThis_busy idle]
    exact ⟨fun creates => idle ⟨creates.1, creates.2.1⟩, rfl, rfl⟩

end ClassWindow

namespace ClipSel

def session (clipSel : ClipSel) : Option (Option HWND × HWND) :=
  if clipSel.isOpen then some (clipSel.miniView, clipSel.overSource) else none

@[simp] theorem isSome_session (clipSel : ClipSel) :
    clipSel.session.isSome = clipSel.isOpen := by
  cases isOpened : clipSel.isOpen <;> simp [session, isOpened]

theorem createThis_session (clipSel : ClipSel) (registeredClasses : List String)
    (miniView : MiniView) (creation : Creation) :
    (clipSel.createThis registeredClasses miniView creation).1.session =
      if clipSel.isOpen then some (some miniView.window.hWnd, clipSel.overSource)
      else if clipSel.classWindow.Creates registeredClasses "ClipSelWindow" creation then
        some (some miniView.window.hWnd, miniView.hSource)
      else none := by
  rcases clipSel.classWindow.createThis_cases registeredClasses "ClipSelWindow" (by decide)
    creation with ⟨creates, handle, created⟩ | ⟨fails, handle, refused⟩
  · have opened : creation.handle ≠ 0 := creates.2.2.2
    have noHandle : clipSel.classWindow.windowsItemHandle = 0 := creates.1
    simp [session, createThis, noHandle, creates, created, isOpen, handle, opened]
  · cases isOpened : clipSel.isOpen with
    | true =>
        have handled := isOpened
        simp only [isOpen] at handled
        simp [session, createThis, refused, isOpen, handle, handled]
    | false =>
        have handled := isOpened
        simp only [isOpen] at handled
        simp [session, createThis, fails, isOpen, handle, handled]

end ClipSel

namespace MiniViews

/-! The views by their names. -/

def Named (overlay : MiniViews) : Prop :=
  (overlay.currMiniViews.map fun view => view.window.hWnd).Nodup

def Has (overlay : MiniViews) (target : Option HWND × HWND) : Prop :=
  ∃ view ∈ overlay.currMiniViews, target = (some view.window.hWnd, view.hSource)

instance (overlay : MiniViews) (target : Option HWND × HWND) : Decidable (overlay.Has target) :=
  inferInstanceAs (Decidable (∃ view ∈ overlay.currMiniViews, _))

/-- The selection that is open was opened over the source of a view of the overlay, and is for
that view. -/
def TargetsMember (overlay : MiniViews) : Prop :=
  ∀ session ∈ overlay.clipSel.session, overlay.Has session

instance (overlay : MiniViews) : Decidable overlay.TargetsMember :=
  inferInstanceAs (Decidable (∀ session ∈ overlay.clipSel.session, _))

theorem Named.eq_of_hWnd {overlay : MiniViews} (named : overlay.Named) {view other : MiniView}
    (member : view ∈ overlay.currMiniViews) (otherMember : other ∈ overlay.currMiniViews)
    (same : view.window.hWnd = other.window.hWnd) : view = other :=
  List.inj_on_of_nodup_map named member otherMember same

theorem Named.lookup_eq {overlay : MiniViews} (named : overlay.Named) {view : MiniView}
    (member : view ∈ overlay.currMiniViews) : overlay.lookup view.window.hWnd = some view := by
  cases found : overlay.currMiniViews.find? fun other =>
      other.window.hWnd == view.window.hWnd with
  | none =>
      have missing := List.find?_eq_none.mp found view member
      simp at missing
  | some other =>
      have same : other.window.hWnd = view.window.hWnd := by
        simpa using List.find?_some found
      have otherMember := List.mem_of_find?_eq_some found
      rw [lookup, List.find?_append, found, named.eq_of_hWnd otherMember member same]
      rfl

theorem lookup_hWnd {overlay : MiniViews} {hMiniView : HWND} {view : MiniView}
    (found : overlay.lookup hMiniView = some view) : view.window.hWnd = hMiniView := by
  simpa using List.find?_some found

/-- The views of one overlay are those of another, changed but in the same windows over the
same sources. -/
def SameViews (overlay next : MiniViews) : Prop :=
  ∃ change : MiniView → MiniView, next.currMiniViews = overlay.currMiniViews.map change ∧
    ∀ view ∈ overlay.currMiniViews, MiniView.SameWindows view (change view)

namespace SameViews

variable {overlay middle next : MiniViews}

theorem of_eq (same : next.currMiniViews = overlay.currMiniViews) : SameViews overlay next :=
  ⟨id, by rw [same, List.map_id], fun _ _ => ⟨rfl, rfl⟩⟩

theorem trans (first : SameViews overlay middle) (second : SameViews middle next) :
    SameViews overlay next := by
  obtain ⟨change, views, same⟩ := first
  obtain ⟨again, viewsAgain, sameAgain⟩ := second
  refine ⟨again ∘ change, ?_, ?_⟩
  · rw [viewsAgain, views, List.map_map]
  · intro view member
    have changed : change view ∈ middle.currMiniViews := by
      rw [views]
      exact List.mem_map_of_mem member
    exact (same view member).trans (sameAgain _ changed)

theorem has_iff (same : SameViews overlay next) (target : Option HWND × HWND) :
    next.Has target ↔ overlay.Has target := by
  obtain ⟨change, views, windows⟩ := same
  simp only [Has, views, List.mem_map]
  constructor
  · rintro ⟨_, ⟨view, member, rfl⟩, targets⟩
    rw [(windows view member).hWnd, (windows view member).hSource] at targets
    exact ⟨view, member, targets⟩
  · rintro ⟨view, member, targets⟩
    refine ⟨change view, ⟨view, member, rfl⟩, ?_⟩
    rw [(windows view member).hWnd, (windows view member).hSource]
    exact targets

theorem names (same : SameViews overlay next) :
    (next.currMiniViews.map fun view => view.window.hWnd) =
      overlay.currMiniViews.map fun view => view.window.hWnd := by
  obtain ⟨change, views, windows⟩ := same
  rw [views, List.map_map]
  exact List.map_congr_left fun view member => (windows view member).hWnd

theorem named (same : SameViews overlay next) (named : overlay.Named) : next.Named := by
  rw [Named, same.names]
  exact named

theorem targetsMember_iff (same : SameViews overlay next) :
    next.TargetsMember ↔ ∀ session ∈ next.clipSel.session, overlay.Has session :=
  forall_congr' fun session => forall_congr' fun _ => same.has_iff session

end SameViews

theorem update_sameViews (overlay : MiniViews) (hMiniView : HWND) {change : MiniView → MiniView}
    (same : ∀ view ∈ overlay.currMiniViews, view.window.hWnd = hMiniView →
      MiniView.SameWindows view (change view)) :
    SameViews overlay (overlay.update hMiniView change) := by
  refine ⟨_, rfl, fun view member => ?_⟩
  split
  · rename_i called
    exact same view member called
  · exact ⟨rfl, rfl⟩

theorem update_names (overlay : MiniViews) (hMiniView : HWND) {change : MiniView → MiniView}
    (same : ∀ view ∈ overlay.currMiniViews, view.window.hWnd = hMiniView →
      (change view).window.hWnd = view.window.hWnd) :
    ((overlay.update hMiniView change).currMiniViews.map fun view => view.window.hWnd) =
      overlay.currMiniViews.map fun view => view.window.hWnd := by
  simp only [update, List.map_map]
  refine List.map_congr_left fun view member => ?_
  simp only [Function.comp_apply]
  split
  · rename_i called
    exact same view member called
  · rfl

theorem toggleEditMode_sameViews (overlay : MiniViews) (desktop : Desktop) :
    SameViews overlay (overlay.toggleEditMode desktop) :=
  ⟨_, rfl, fun view _ => view.setEditMode_sameWindows desktop _⟩

theorem setClipRegion_sameViews (overlay : MiniViews) (miniView : MiniView) (desktop : Desktop)
    (creation : Creation) :
    SameViews overlay (overlay.setClipRegion miniView desktop creation) := by
  simp only [setClipRegion]
  split
  · exact ⟨_, rfl, fun view _ => view.hideByParentRequest_sameShell.toSameWindows⟩
  · refine SameViews.trans (overlay.toggleEditMode_sameViews desktop) ?_
    exact ⟨_, rfl, fun view _ => view.hideByParentRequest_sameShell.toSameWindows⟩

theorem endSetClipRegion_sameViews (overlay : MiniViews) (user : MiniViewUser)
    (desktop : Desktop) (hMiniView : HWND) (rcClip : Rect) :
    SameViews overlay (overlay.endSetClipRegion user desktop hMiniView rcClip) := by
  simp only [endSetClipRegion]
  refine SameViews.trans ?_ (update_sameViews _ _ fun view _ _ =>
    (view.setClip_sameShell user desktop true _ _ _ _).toSameWindows)
  exact ⟨_, rfl, fun view _ => view.showByParentRequest_sameShell.toSameWindows⟩

theorem setClipRegion_session (overlay : MiniViews) (miniView : MiniView) (desktop : Desktop)
    (creation : Creation) :
    (overlay.setClipRegion miniView desktop creation).clipSel.session =
      if overlay.clipSel.isOpen then some (some miniView.window.hWnd, overlay.clipSel.overSource)
      else if overlay.clipSel.classWindow.Creates overlay.registeredClasses "ClipSelWindow"
          creation then
        some (some miniView.window.hWnd, miniView.hSource)
      else none := by
  simp only [setClipRegion]
  split <;> exact ClipSel.createThis_session _ _ _ _

/-! The target of a selection. -/

def KeepsTarget (overlay : MiniViews) : Event → Prop
  | .closeMiniView hMiniView =>
      ∀ session ∈ overlay.clipSel.session, session.1 ≠ some hMiniView
  | .clearMiniViews => overlay.clipSel.isOpen = false
  | .setClipRegion hMiniView _ creation =>
      ∀ miniView ∈ overlay.lookup hMiniView,
        if overlay.clipSel.isOpen then
          miniView ∈ overlay.currMiniViews ∧ miniView.hSource = overlay.clipSel.overSource
        else
          overlay.clipSel.classWindow.Creates overlay.registeredClasses "ClipSelWindow" creation →
            miniView ∈ overlay.currMiniViews
  | .exitSizeMove hMiniView _ desktop target =>
      ∀ session ∈ overlay.clipSel.session, session.1 = some hMiniView →
        ∀ miniView ∈ overlay.currMiniViews, miniView.window.hWnd = hMiniView →
          miniView.settingWindow = true → MiniView.droppedSource desktop target = session.2
  | _ => True

instance (overlay : MiniViews) : ∀ event, Decidable (overlay.KeepsTarget event)
  | .closeMiniView _ | .clearMiniViews | .setClipRegion _ _ _ | .exitSizeMove _ _ _ _ => by
      unfold KeepsTarget
      infer_instance
  | .addMiniView _ _ _ _ _ _ _ | .lButtonDown _ _ | .mouseMove _ _ _ | .lButtonUp _ _ _ _
  | .toggleEditMode _ | .setOpacityLevel _ | .incrementAlpha | .decrementAlpha | .call _ _ =>
      isTrue trivial

structure Tracked (overlay : MiniViews) : Prop where
  named : overlay.Named
  targets : overlay.TargetsMember

theorem Tracked.of_sameViews {overlay next : MiniViews} (tracked : overlay.Tracked)
    (same : SameViews overlay next)
    (sessions : ∀ session ∈ next.clipSel.session, session ∈ overlay.clipSel.session) :
    next.Tracked :=
  ⟨same.named tracked.named, same.targetsMember_iff.mpr fun session isOpen =>
    tracked.targets session (sessions session isOpen)⟩

/-- The edit mode is entered first, and at most one view is added, under the handle it got. -/
theorem addMiniView_cases (overlay : MiniViews) (user : MiniViewUser) (desktop : Desktop)
    (desktopWindow : HWND) (xc yc : Int) (frame : Frame) (creation : Creation) :
    ∃ editing : MiniViews, (editing = overlay ∨ editing = overlay.toggleEditMode desktop) ∧
      ∃ registeredClasses : List String, ∃ views : List MiniView,
        overlay.addMiniView user desktop desktopWindow xc yc frame creation =
          { editing with
            clickThrough := false
            registeredClasses := registeredClasses
            currMiniViews := editing.currMiniViews ++ views } ∧
        (views = [] ∨ creation.handle ≠ 0 ∧ ∃ view : MiniView, views = [view] ∧
          view.window.hWnd = creation.handle ∧ view.hiddenByParent = false) := by
  obtain ⟨editing, isEditing, origin⟩ : ∃ editing : MiniViews,
      editing = (if overlay.editMode then overlay else overlay.toggleEditMode desktop) ∧
        (editing = overlay ∨ editing = overlay.toggleEditMode desktop) := by
    refine ⟨_, rfl, ?_⟩
    split
    · exact Or.inl rfl
    · exact Or.inr rfl
  refine ⟨editing, origin, ?_⟩
  simp only [addMiniView, ← isEditing]
  rcases ClassWindow.init.createThis_cases editing.registeredClasses "MiniViewWin" (by decide)
    creation with ⟨creates, handle, created⟩ | ⟨-, -, refused⟩
  · rw [created, if_pos rfl]
    refine ⟨_, _, rfl, Or.inr ⟨creates.2.2.2, _, rfl, ?_, rfl⟩⟩
    exact handle
  · rw [refused, if_neg (by simp)]
    exact ⟨_, [], by rw [List.append_nil], Or.inl rfl⟩

theorem addMiniView_tracked {overlay : MiniViews} (tracked : overlay.Tracked)
    (user : MiniViewUser) (desktop : Desktop) (desktopWindow : HWND) (xc yc : Int)
    (frame : Frame) {creation : Creation} (fresh : overlay.isFresh creation.handle = true) :
    (overlay.addMiniView user desktop desktopWindow xc yc frame creation).Tracked := by
  obtain ⟨editing, origin, classes, views, added, new⟩ :=
    overlay.addMiniView_cases user desktop desktopWindow xc yc frame creation
  have same : SameViews overlay editing := by
    rcases origin with rfl | rfl
    · exact SameViews.of_eq rfl
    · exact overlay.toggleEditMode_sameViews desktop
  have session : editing.clipSel = overlay.clipSel := by
    rcases origin with rfl | rfl <;> rfl
  have kept : editing.Tracked :=
    tracked.of_sameViews same fun openSession isOpen => by rwa [session] at isOpen
  rw [added]
  refine ⟨?_, ?_⟩
  · rcases new with rfl | ⟨isUsed, view, rfl, called, -⟩
    · simpa only [Named, List.append_nil] using kept.named
    · simp only [Named, List.map_append, List.map_cons, List.map_nil, called]
      rw [List.nodup_append]
      refine ⟨kept.named, List.nodup_singleton _, ?_⟩
      rintro name member other isNew rfl
      have unused : overlay.lookup creation.handle = none := by
        simpa [isFresh, isUsed] using fresh
      rw [List.mem_singleton] at isNew
      rw [same.names, List.mem_map] at member
      obtain ⟨old, member, oldCalled⟩ := member
      have missing := List.find?_eq_none.mp unused old (List.mem_append_left _ member)
      simp [oldCalled, isNew] at missing
  · intro target isOpen
    obtain ⟨view, member, targets⟩ := kept.targets target isOpen
    exact ⟨view, List.mem_append_left _ member, targets⟩

theorem closeMiniView_names (overlay : MiniViews) (miniView : MiniView) :
    ((overlay.closeMiniView miniView).currMiniViews.map fun view => view.window.hWnd) =
      (overlay.currMiniViews.map fun view => view.window.hWnd).erase miniView.window.hWnd := by
  rw [List.erase_eq_eraseP', List.eraseP_map]
  rfl

theorem closeMiniView_named {overlay : MiniViews} (named : overlay.Named) (miniView : MiniView) :
    (overlay.closeMiniView miniView).Named := by
  rw [Named, closeMiniView_names]
  exact named.erase _

theorem closeMiniView_has_iff {overlay : MiniViews} (named : overlay.Named) (miniView : MiniView)
    (target : Option HWND × HWND) :
    (overlay.closeMiniView miniView).Has target ↔
      overlay.Has target ∧ target.1 ≠ some miniView.window.hWnd := by
  constructor
  · rintro ⟨view, member, rfl⟩
    refine ⟨⟨view, List.mem_of_mem_eraseP member, rfl⟩, ?_⟩
    intro same
    have gone : miniView.window.hWnd ∉
        (overlay.closeMiniView miniView).currMiniViews.map fun view => view.window.hWnd := by
      rw [closeMiniView_names]
      exact named.not_mem_erase
    exact gone (List.mem_map.mpr ⟨view, member, Option.some.inj same⟩)
  · rintro ⟨⟨view, member, rfl⟩, other⟩
    refine ⟨view, (List.mem_eraseP_of_neg ?_).mpr member, rfl⟩
    simpa using other

theorem exitSizeMove_names (overlay : MiniViews) (hMiniView : HWND) (user : MiniViewUser)
    (desktop : Desktop) (target : MiniView.DropTarget) :
    ((overlay.update hMiniView fun view =>
        view.exitSizeMove user desktop target).currMiniViews.map fun view => view.window.hWnd) =
      overlay.currMiniViews.map fun view => view.window.hWnd :=
  overlay.update_names hMiniView fun view _ _ => (view.exitSizeMove_windows user desktop target).1

theorem exitSizeMove_named {overlay : MiniViews} (named : overlay.Named) (hMiniView : HWND)
    (user : MiniViewUser) (desktop : Desktop) (target : MiniView.DropTarget) :
    (overlay.update hMiniView fun view => view.exitSizeMove user desktop target).Named := by
  rw [Named, overlay.exitSizeMove_names]
  exact named

theorem exitSizeMove_has_iff {overlay : MiniViews} (named : overlay.Named) {view : MiniView}
    (member : view ∈ overlay.currMiniViews) (hMiniView : HWND) (user : MiniViewUser)
    (desktop : Desktop) (target : MiniView.DropTarget) :
    (overlay.update hMiniView fun view => view.exitSizeMove user desktop target).Has
        (some view.window.hWnd, view.hSource) ↔
      (view.window.hWnd = hMiniView → view.settingWindow = true →
        MiniView.droppedSource desktop target = view.hSource) := by
  have windows := fun other : MiniView => other.exitSizeMove_windows user desktop target
  constructor
  · rintro ⟨_, moved, targets⟩ called setting
    obtain ⟨other, otherMember, rfl⟩ := List.mem_map.mp moved
    obtain ⟨sameName, sameSource⟩ := Prod.mk.inj targets
    have sameWindow : view.window.hWnd = other.window.hWnd := by
      have found := Option.some.inj sameName
      split at found
      · exact found.trans (windows other).1
      · exact found
    have same := named.eq_of_hWnd member otherMember sameWindow
    subst same
    rw [if_pos called, (windows view).2, if_pos setting] at sameSource
    exact sameSource.symm
  · intro keeps
    refine ⟨_, List.mem_map_of_mem member, ?_⟩
    split
    · rename_i called
      rw [(windows view).1, (windows view).2]
      split
      · rename_i setting
        rw [keeps called setting]
      · rfl
    · rfl

theorem exitSizeMove_targets_iff {overlay : MiniViews} (tracked : overlay.Tracked)
    (hMiniView : HWND) (user : MiniViewUser) (desktop : Desktop) (target : MiniView.DropTarget) :
    (overlay.update hMiniView fun view =>
        view.exitSizeMove user desktop target).TargetsMember ↔
      overlay.KeepsTarget (.exitSizeMove hMiniView user desktop target) := by
  refine forall_congr' fun session => forall_congr' fun isOpen => ?_
  obtain ⟨view, member, rfl⟩ := tracked.targets session isOpen
  rw [exitSizeMove_has_iff tracked.named member]
  constructor
  · intro keeps sameName other otherMember called setting
    have same := tracked.named.eq_of_hWnd otherMember member
      (called.trans (Option.some.inj sameName).symm)
    subst same
    exact keeps called setting
  · intro keeps called setting
    exact keeps (congrArg some called) view member called setting

theorem clearMiniViews_has (overlay : MiniViews) (target : Option HWND × HWND) :
    ¬ overlay.clearMiniViews.Has target := by
  rintro ⟨view, member, -⟩
  cases member

theorem has_lookup_iff {overlay : MiniViews} (named : overlay.Named) {hMiniView : HWND}
    {miniView : MiniView} (found : overlay.lookup hMiniView = some miniView) (source : HWND) :
    overlay.Has (some miniView.window.hWnd, source) ↔
      miniView ∈ overlay.currMiniViews ∧ miniView.hSource = source := by
  constructor
  · rintro ⟨view, member, targets⟩
    obtain ⟨sameName, sameSource⟩ := Prod.mk.inj targets
    have looked := named.lookup_eq member
    rw [← Option.some.inj sameName, lookup_hWnd found, found] at looked
    cases looked
    exact ⟨member, sameSource.symm⟩
  · rintro ⟨member, rfl⟩
    exact ⟨miniView, member, rfl⟩

theorem restoreSize_sameViews (overlay : MiniViews) (hMiniView : HWND) :
    SameViews overlay (overlay.update hMiniView MiniView.setClipRegion) := by
  refine overlay.update_sameViews hMiniView fun view _ _ => ?_
  exact ⟨rfl, rfl⟩

theorem setClipRegion_targets_iff {overlay : MiniViews} (named : overlay.Named)
    {hMiniView : HWND} {miniView : MiniView} (found : overlay.lookup hMiniView = some miniView)
    (desktop : Desktop) (creation : Creation) :
    ((overlay.update hMiniView MiniView.setClipRegion).setClipRegion miniView.setClipRegion
        desktop creation).TargetsMember ↔
      overlay.KeepsTarget (.setClipRegion hMiniView desktop creation) := by
  have same : SameViews overlay ((overlay.update hMiniView MiniView.setClipRegion).setClipRegion
      miniView.setClipRegion desktop creation) :=
    (overlay.restoreSize_sameViews hMiniView).trans (setClipRegion_sameViews _ _ _ _)
  have windows : MiniView.SameWindows miniView miniView.setClipRegion := ⟨rfl, rfl⟩
  have member := has_lookup_iff named found
  rw [same.targetsMember_iff, setClipRegion_session, windows.hWnd, windows.hSource]
  simp only [KeepsTarget, found, Option.mem_def, Option.some.injEq, forall_eq']
  have kept : (overlay.update hMiniView MiniView.setClipRegion).clipSel = overlay.clipSel ∧
      (overlay.update hMiniView MiniView.setClipRegion).registeredClasses =
        overlay.registeredClasses := ⟨rfl, rfl⟩
  rw [kept.1, kept.2]
  split
  · simp [member]
  · split
    · rename_i creates
      simp [member, creates]
    · rename_i fails
      simp [fails]

theorem targetsMember_step {overlay next : MiniViews} {event : Event} (tracked : overlay.Tracked)
    (stepped : next ∈ overlay.step event) :
    next.Named ∧ (next.TargetsMember ↔ overlay.KeepsTarget event) := by
  have unchanged : SameViews overlay next → next.clipSel.session = overlay.clipSel.session →
      overlay.KeepsTarget event →
        next.Named ∧ (next.TargetsMember ↔ overlay.KeepsTarget event) := by
    intro same session keeps
    refine ⟨same.named tracked.named, iff_of_true ?_ keeps⟩
    rw [same.targetsMember_iff, session]
    exact tracked.targets
  cases event with
  | addMiniView user desktop desktopWindow xc yc frame creation =>
      obtain ⟨fresh, rfl⟩ := step_addMiniView stepped
      have kept := addMiniView_tracked tracked user desktop desktopWindow xc yc frame fresh
      exact ⟨kept.named, iff_of_true kept.targets trivial⟩
  | closeMiniView hMiniView =>
      obtain ⟨miniView, found, rfl⟩ := Option.map_eq_some_iff.mp stepped
      have called : miniView.window.hWnd = hMiniView := by simpa using List.find?_some found
      refine ⟨closeMiniView_named tracked.named miniView, ?_⟩
      refine forall_congr' fun session => forall_congr' fun isOpen => ?_
      rw [closeMiniView_has_iff tracked.named, called]
      exact and_iff_right (tracked.targets session isOpen)
  | clearMiniViews =>
      cases stepped
      refine ⟨List.nodup_nil, ?_⟩
      simp only [KeepsTarget, TargetsMember, clearMiniViews_has, imp_false]
      cases isOpen : overlay.clipSel.isOpen <;>
        simp [clearMiniViews, ClipSel.session, isOpen]
  | setClipRegion hMiniView desktop creation =>
      obtain ⟨miniView, found, rfl⟩ := Option.map_eq_some_iff.mp stepped
      refine ⟨?_, setClipRegion_targets_iff tracked.named found desktop creation⟩
      refine SameViews.named (setClipRegion_sameViews _ _ _ _) ?_
      exact (overlay.restoreSize_sameViews hMiniView).named tracked.named
  | lButtonDown xc yc =>
      obtain rfl := step_lButtonDown stepped
      exact unchanged (SameViews.of_eq rfl) rfl trivial
  | mouseMove leftButton xc yc =>
      obtain rfl := step_mouseMove stepped
      refine unchanged (SameViews.of_eq rfl) ?_ trivial
      cases leftButton <;> rfl
  | lButtonUp user desktop xc yc =>
      obtain ⟨hMiniView, -, rfl⟩ := step_lButtonUp stepped
      have same := overlay.endSetClipRegion_sameViews user desktop hMiniView
        (overlay.clipSel.selection xc yc)
      refine ⟨same.named tracked.named, iff_of_true ?_ trivial⟩
      intro session isOpen
      cases isOpen
  | toggleEditMode desktop =>
      cases stepped
      exact unchanged (overlay.toggleEditMode_sameViews desktop) rfl trivial
  | setOpacityLevel newOpacityLevel =>
      cases stepped
      exact unchanged (SameViews.of_eq rfl) rfl trivial
  | incrementAlpha =>
      obtain ⟨newOpacityLevel, rfl⟩ := step_incrementAlpha stepped
      exact unchanged (SameViews.of_eq rfl) rfl trivial
  | decrementAlpha =>
      obtain ⟨newOpacityLevel, rfl⟩ := step_decrementAlpha stepped
      exact unchanged (SameViews.of_eq rfl) rfl trivial
  | exitSizeMove hMiniView user desktop target =>
      obtain ⟨_, -, rfl⟩ := Option.map_eq_some_iff.mp stepped
      exact ⟨exitSizeMove_named tracked.named hMiniView user desktop target,
        exitSizeMove_targets_iff tracked hMiniView user desktop target⟩
  | call hMiniView call =>
      obtain ⟨-, view, found, changed, called, rfl⟩ := step_call stepped
      refine unchanged (overlay.update_sameViews hMiniView fun other member named => ?_) rfl
        trivial
      have looked := tracked.named.lookup_eq member
      rw [named, found] at looked
      cases looked
      exact MiniView.step_sameWindows called

theorem keepsTarget_of_blocked {overlay : MiniViews} {event : Event} (tracked : overlay.Tracked)
    (blocked : overlay.step event = none) : overlay.KeepsTarget event := by
  cases event with
  | closeMiniView hMiniView =>
      rintro session isOpen
      obtain ⟨view, member, rfl⟩ := tracked.targets session isOpen
      have missing := List.find?_eq_none.mp (Option.map_eq_none_iff.mp blocked) view member
      simpa using missing
  | clearMiniViews => cases blocked
  | setClipRegion hMiniView desktop creation =>
      intro miniView found
      rw [Option.map_eq_none_iff.mp blocked] at found
      cases found
  | exitSizeMove hMiniView user desktop target =>
      intro session isOpen _ miniView member called
      have missing := List.find?_eq_none.mp (Option.map_eq_none_iff.mp blocked) miniView member
      simp [called] at missing
  | _ => trivial

theorem targetsMember_iff (overlay : MiniViews) (event : Event) (tracked : overlay.Tracked) :
    Runs.After step (fun _ _ next => next.TargetsMember) overlay event ↔
      overlay.KeepsTarget event := by
  apply Runs.after_iff
  · exact keepsTarget_of_blocked tracked
  · exact fun next stepped => (targetsMember_step tracked stepped).2

/-- Along any run of the overlay, an open selection is for a view of the overlay and over the
source of that view, exactly if its target is neither closed nor cleared nor dropped elsewhere
meanwhile, and no selection is asked for on a view over another source or that was closed. -/
theorem selection_targets_member_iff (defaultOpacity : UInt8) (events : List Event) :
    Runs.Along step (Runs.After step fun _ _ next => next.TargetsMember)
        (init defaultOpacity) events ↔
      Runs.Along step KeepsTarget (init defaultOpacity) events := by
  have initial : (init defaultOpacity).Tracked :=
    ⟨List.nodup_nil, fun session isOpen => by cases isOpen⟩
  refine Runs.along_iff_of_exact targetsMember_iff ?_ initial
  intro overlay event tracked keeps next stepped
  obtain ⟨named, targets⟩ := targetsMember_step tracked stepped
  exact ⟨named, targets.mpr keeps⟩

def anyUser : MiniViewUser := ⟨false, false, false, false⟩

def anyDesktop : Desktop := ⟨some ⟨0, 0, 600, 600⟩, false, ⟨none, ⟨600, 600⟩⟩, 0, 0⟩

theorem selection_outlives_target :
    ¬ ∀ (defaultOpacity : UInt8) (events : List Event),
      Runs.Along step (Runs.After step fun _ _ next => next.TargetsMember)
        (init defaultOpacity) events := by
  intro claim
  have targets := claim 175
    [.addMiniView anyUser anyDesktop 1 50 50 Frame.none ⟨true, 2⟩,
      .setClipRegion 2 anyDesktop ⟨true, 3⟩, .closeMiniView 2]
  revert targets
  decide

end MiniViews

end LeanMiniViews
