import LeanMiniViews.ClipSession
import LeanMiniViews.DialogCore

/-!
The list of the Views tab is a copy of the overlay's list, kept by requests to rebuild it. The
tree reports a selection by index, so an index is only good while the copy is.
-/

namespace LeanMiniViews

namespace ViewsWindow

/-- The tab lists these views in this order, and has selected one of them or none. -/
def Describes (window : ViewsWindow) (miniViewList : List HWND) : Prop :=
  (window.currTreeItems.map fun item => item.miniView) = miniViewList ∧
    ∀ miniView ∈ window.currMiniView, miniView ∈ miniViewList

instance (window : ViewsWindow) (miniViewList : List HWND) :
    Decidable (window.Describes miniViewList) :=
  inferInstanceAs (Decidable (_ ∧ ∀ miniView ∈ window.currMiniView, _))

/-! Selections. -/

theorem mem_of_miniViewAt {newValue : Int} {miniViewList : List HWND} {miniView : HWND} {i : Int}
    (found : miniViewAt newValue i miniViewList = some miniView) : miniView ∈ miniViewList := by
  induction miniViewList generalizing i with
  | nil => cases found
  | cons first rest ih =>
      rw [miniViewAt] at found
      by_cases here : i = newValue
      · rw [if_pos here] at found
        cases found
        exact List.mem_cons_self
      · rw [if_neg here] at found
        exact List.mem_cons_of_mem _ (ih found)

theorem notifyTreeItemSelected_mem (miniViewList : List HWND) (window : ViewsWindow)
    (newValue : Int) :
    ∀ miniView ∈ (notifyTreeItemSelected miniViewList window newValue).currMiniView,
      miniView ∈ miniViewList := by
  intro miniView selected
  exact mem_of_miniViewAt selected

theorem notifyTreeItemSelected_describes {window : ViewsWindow} {miniViewList : List HWND}
    (described : window.Describes miniViewList) (newValue : Int) :
    (notifyTreeItemSelected miniViewList window newValue).Describes miniViewList :=
  ⟨described.1, notifyTreeItemSelected_mem miniViewList window newValue⟩

theorem reports_kept (miniViewList : List HWND) (reports : List Int) (window : ViewsWindow) :
    (reports.foldl (notifyTreeItemSelected miniViewList) window).currTreeItems =
        window.currTreeItems ∧
      ((∀ miniView ∈ window.currMiniView, miniView ∈ miniViewList) →
        ∀ miniView ∈ (reports.foldl (notifyTreeItemSelected miniViewList) window).currMiniView,
          miniView ∈ miniViewList) := by
  induction reports generalizing window with
  | nil => exact ⟨rfl, id⟩
  | cons newValue rest ih =>
      have next := ih (notifyTreeItemSelected miniViewList window newValue)
      refine ⟨next.1, fun _ => ?_⟩
      exact next.2 (notifyTreeItemSelected_mem miniViewList window newValue)

/-! The loop that rebuilds the tree. -/

theorem insertMiniView_items (tree : TreeControl) (miniViewList : List HWND)
    (state : ViewsWindow × Bool) (miniView : HWND) :
    ((insertMiniView tree miniViewList state miniView).1.currTreeItems.map fun item =>
        item.miniView) =
      (state.1.currTreeItems.map fun item => item.miniView) ++ [miniView] := by
  simp only [insertMiniView]
  rw [(reports_kept miniViewList _ _).1, List.map_append]
  rfl

theorem insertMiniView_selected (tree : TreeControl) {miniViewList : List HWND}
    {state : ViewsWindow × Bool} {miniView : HWND} (member : miniView ∈ miniViewList)
    (selected : state.2 = true → ∀ view ∈ state.1.currMiniView, view ∈ miniViewList)
    (met : (insertMiniView tree miniViewList state miniView).2 = true) :
    ∀ view ∈ (insertMiniView tree miniViewList state miniView).1.currMiniView,
      view ∈ miniViewList := by
  refine (reports_kept miniViewList _ _).2 ?_
  simp only [insertMiniView, Bool.or_eq_true, beq_iff_eq] at met
  rcases met with earlier | here
  · exact selected earlier
  · intro view isSelected
    have same : some view = some miniView := isSelected.symm.trans here
    cases same
    exact member

theorem insertMiniViews_items (tree : TreeControl) (miniViewList rest : List HWND)
    (state : ViewsWindow × Bool) :
    ((rest.foldl (insertMiniView tree miniViewList) state).1.currTreeItems.map fun item =>
        item.miniView) =
      (state.1.currTreeItems.map fun item => item.miniView) ++ rest := by
  induction rest generalizing state with
  | nil => simp
  | cons miniView rest ih =>
      rw [List.foldl_cons, ih, insertMiniView_items, List.append_assoc]
      rfl

theorem insertMiniViews_selected {tree : TreeControl} {miniViewList rest : List HWND}
    (within : ∀ miniView ∈ rest, miniView ∈ miniViewList) {state : ViewsWindow × Bool}
    (selected : state.2 = true → ∀ view ∈ state.1.currMiniView, view ∈ miniViewList)
    (met : (rest.foldl (insertMiniView tree miniViewList) state).2 = true) :
    ∀ view ∈ (rest.foldl (insertMiniView tree miniViewList) state).1.currMiniView,
      view ∈ miniViewList := by
  induction rest generalizing state with
  | nil => exact selected met
  | cons miniView rest ih =>
      have inserted := insertMiniView_selected tree (within miniView List.mem_cons_self) selected
      exact ih (fun view member => within view (List.mem_cons_of_mem _ member)) inserted met

theorem rebuildTree_describes (window : ViewsWindow) (tree : TreeControl)
    (miniViewList : List HWND) : (window.rebuildTree tree miniViewList).Describes miniViewList := by
  simp only [rebuildTree]
  generalize emptied : tree.emptySubTree.foldl (notifyTreeItemSelected miniViewList)
    { window with currTreeItems := [] } = start
  have noItems : start.currTreeItems = [] := by
    rw [← emptied, (reports_kept miniViewList _ _).1]
  have items := insertMiniViews_items tree miniViewList miniViewList (start, false)
  rw [noItems, List.map_nil, List.nil_append] at items
  by_cases met : (miniViewList.foldl (insertMiniView tree miniViewList) (start, false)).2 = true
  · rw [if_pos met]
    refine ⟨items, insertMiniViews_selected (fun _ member => member) ?_ met⟩
    intro untrue
    cases untrue
  · rw [if_neg met]
    refine ⟨items, ?_⟩
    intro miniView first
    exact List.mem_of_mem_head? first

theorem refreshNames_describes {window : ViewsWindow} {miniViewList : List HWND}
    (described : window.Describes miniViewList) (tree : TreeControl) :
    (window.refreshNames tree).Describes miniViewList := by
  refine ⟨?_, described.2⟩
  rw [← described.1, refreshNames, List.map_map]
  refine List.map_congr_left fun item _ => ?_
  simp only [Function.comp_apply]
  split <;> rfl

end ViewsWindow

/-! The steps of the overlay that leave its list of windows alone. -/

namespace MiniViews

/-- The operations after which the overlay has other views. -/
def changesViews : Event → Bool
  | .addMiniView _ _ _ _ _ _ _ => true
  | .closeMiniView _ => true
  | .clearMiniViews => true
  | _ => false

theorem step_names {overlay next : MiniViews} {event : Event}
    (stepped : next ∈ overlay.step event) (keeps : changesViews event = false) :
    (next.currMiniViews.map fun view => view.window.hWnd) =
      overlay.currMiniViews.map fun view => view.window.hWnd := by
  cases event with
  | addMiniView user desktop desktopWindow xc yc frame creation => cases keeps
  | closeMiniView hMiniView => cases keeps
  | clearMiniViews => cases keeps
  | setClipRegion hMiniView desktop creation =>
      obtain ⟨miniView, -, rfl⟩ := Option.map_eq_some_iff.mp stepped
      rw [(setClipRegion_sameViews _ _ desktop creation).names]
      exact (overlay.restoreSize_sameViews hMiniView).names
  | lButtonDown xc yc =>
      obtain rfl := step_lButtonDown stepped
      rfl
  | mouseMove leftButton xc yc =>
      obtain rfl := step_mouseMove stepped
      rfl
  | lButtonUp user desktop xc yc =>
      obtain ⟨hMiniView, -, rfl⟩ := step_lButtonUp stepped
      exact (overlay.endSetClipRegion_sameViews user desktop hMiniView _).names
  | toggleEditMode desktop =>
      cases stepped
      exact (overlay.toggleEditMode_sameViews desktop).names
  | setOpacityLevel newOpacityLevel =>
      cases stepped
      rfl
  | incrementAlpha =>
      obtain ⟨newOpacityLevel, rfl⟩ := step_incrementAlpha stepped
      rfl
  | decrementAlpha =>
      obtain ⟨newOpacityLevel, rfl⟩ := step_decrementAlpha stepped
      rfl
  | exitSizeMove hMiniView user desktop target =>
      obtain ⟨_, -, rfl⟩ := Option.map_eq_some_iff.mp stepped
      exact overlay.exitSizeMove_names hMiniView user desktop target
  | call hMiniView call =>
      obtain ⟨-, view, found, changed, called, rfl⟩ := step_call stepped
      refine overlay.update_names hMiniView fun other _ named => ?_
      have sameWindow := (MiniView.step_sameWindows called).hWnd
      rw [sameWindow, lookup_hWnd found, named]

end MiniViews

namespace MainDialog

def showsViews (dialog : MainDialog) : Bool :=
  dialog.isShown && decide (dialog.selectedTab = .viewsTab)

theorem refreshViewsTab_rebuilds (dialog : MainDialog) (tree : TreeControl)
    (miniViewList : List HWND)
    (shows : (dialog.refreshViewsTab tree miniViewList true true).showsViews = true) :
    (dialog.refreshViewsTab tree miniViewList true true).viewsWindow.Describes miniViewList := by
  by_cases shown : dialog.isShown ∧ dialog.selectedTab = .viewsTab
  · rw [refreshViewsTab, if_pos shown]
    exact ViewsWindow.rebuildTree_describes _ tree miniViewList
  · rw [refreshViewsTab, if_neg shown] at shows
    simp only [showsViews, Bool.and_eq_true, decide_eq_true_eq] at shows
    exact absurd shows shown

theorem changeTab_describes (dialog : MainDialog) (tree : TreeControl) (miniViewList : List HWND)
    (shows : (dialog.changeTab tree miniViewList dialog.selectedTab).showsViews = true) :
    (dialog.changeTab tree miniViewList dialog.selectedTab).viewsWindow.Describes
      miniViewList := by
  cases selected : dialog.selectedTab with
  | viewsTab => exact ViewsWindow.rebuildTree_describes _ tree miniViewList
  | generalTab => simp [selected, changeTab, showsViews] at shows
  | advancedTab => simp [selected, changeTab, showsViews] at shows
  | aboutTab => simp [selected, changeTab, showsViews] at shows

theorem destroyThis_hides (dialog : MainDialog) : dialog.destroyThis.isShown = false := by
  cases shown : dialog.isShown with
  | true =>
      rw [destroyThis, if_pos shown]
      rfl
  | false =>
      rw [destroyThis, if_neg (by simp [shown])]
      exact shown

/-- Either the dialog is created and shows its tab, or nothing of it changes but the name of a
class its window may have. -/
theorem createThis_describes {dialog : MainDialog} {miniViewList : List HWND}
    (kept : dialog.showsViews = true → dialog.viewsWindow.Describes miniViewList)
    (registeredClasses : List String) (creation : Creation) (tree : TreeControl)
    (shows : (dialog.createThis registeredClasses creation tree miniViewList).1.showsViews =
      true) :
    (dialog.createThis registeredClasses creation tree miniViewList).1.viewsWindow.Describes
      miniViewList := by
  simp only [createThis] at shows ⊢
  rcases dialog.classWindow.createThis_cases registeredClasses "MainMiniViewsDialog" (by decide)
    creation with ⟨-, -, created⟩ | ⟨-, handle, refused⟩
  · rw [created, if_pos rfl] at shows ⊢
    exact changeTab_describes _ tree miniViewList shows
  · rw [refused, if_neg (by simp)] at shows ⊢
    refine kept ?_
    simp only [showsViews, isShown, handle] at shows ⊢
    exact shows

theorem tabSelChange_describes (dialog : MainDialog) (tree : TreeControl)
    (miniViewList : List HWND) (curSel : TabId)
    (shows : (dialog.tabSelChange tree miniViewList curSel).showsViews = true) :
    (dialog.tabSelChange tree miniViewList curSel).viewsWindow.Describes miniViewList :=
  changeTab_describes { dialog with selectedTab := curSel } tree miniViewList shows

end MainDialog

namespace Application

/-- While the dialog is open on the Views tab, the tab describes the views of the overlay. -/
def TabDescribes (app : Application) : Prop :=
  app.mainDialog.showsViews = true → app.mainDialog.viewsWindow.Describes app.getMiniViewList

instance (app : Application) : Decidable app.TabDescribes :=
  inferInstanceAs (Decidable (_ → _))

/-- The views are not cleared, unless there are none, under an open Views tab. -/
def KeepsTab (app : Application) : Event → Prop
  | .overlay .clearMiniViews _ =>
      app.mainDialog.showsViews = true → app.miniViews.currMiniViews = []
  | _ => True

theorem tabDescribes_of_hidden {app : Application} (hidden : app.mainDialog.isShown = false) :
    app.TabDescribes := by
  intro shows
  simp [MainDialog.showsViews, hidden] at shows

theorem rebuilt_tabDescribes (app : Application) (tree : TreeControl) :
    (app.refreshViewsTab tree true true).TabDescribes := by
  intro shows
  exact app.mainDialog.refreshViewsTab_rebuilds tree app.getMiniViewList shows

theorem notifyChange_tabDescribes {app : Application} (kept : app.TabDescribes)
    (tree : TreeControl) : (app.refreshViewsTab tree false true).TabDescribes := by
  by_cases shown : app.mainDialog.isShown ∧ app.mainDialog.selectedTab = .viewsTab
  · have described := kept (by simp [MainDialog.showsViews, shown])
    intro _
    simp only [refreshViewsTab, MainDialog.refreshViewsTab, if_pos shown]
    exact ViewsWindow.refreshNames_describes described tree
  · simp only [refreshViewsTab, MainDialog.refreshViewsTab, if_neg shown]
    exact kept

theorem createDialog_tabDescribes {app : Application} (kept : app.TabDescribes)
    (creation : Creation) (tree : TreeControl) : (app.createDialog creation tree).TabDescribes := by
  intro shows
  exact MainDialog.createThis_describes kept app.miniViews.registeredClasses creation tree shows

theorem toggleShown_tabDescribes {app : Application} (kept : app.TabDescribes)
    (creation : Creation) (tree : TreeControl) : (app.toggleShown creation tree).TabDescribes := by
  rw [toggleShown]
  split
  · exact createDialog_tabDescribes kept creation tree
  · exact tabDescribes_of_hidden app.mainDialog.destroyThis_hides

theorem sameNames_tabDescribes {app : Application} (kept : app.TabDescribes) {next : MiniViews}
    (same : (next.currMiniViews.map fun view => view.window.hWnd) = app.getMiniViewList) :
    ({ app with miniViews := next } : Application).TabDescribes := by
  intro shows
  have described := kept shows
  rw [← same] at described
  exact described

theorem cleared_tabDescribes_iff {app : Application} (kept : app.TabDescribes) :
    ({ app with miniViews := app.miniViews.clearMiniViews } : Application).TabDescribes ↔
      (app.mainDialog.showsViews = true → app.miniViews.currMiniViews = []) := by
  refine forall_congr' fun shows => ?_
  have described := kept shows
  constructor
  · intro cleared
    have none_left : app.getMiniViewList = [] := by
      rw [← described.1]
      exact cleared.1
    exact List.map_eq_nil_iff.mp none_left
  · intro empty
    have none_left : app.getMiniViewList = [] := by rw [getMiniViewList, empty, List.map_nil]
    rw [none_left] at described
    exact described

theorem overlay_step {app next : Application} {event : MiniViews.Event} {tree : TreeControl}
    (kept : app.TabDescribes) (stepped : next ∈ app.step (.overlay event tree)) :
    next.TabDescribes ↔ app.KeepsTab (.overlay event tree) := by
  obtain ⟨overlay, overlaySteps, rfl⟩ := Option.map_eq_some_iff.mp stepped
  cases event with
  | addMiniView user desktop desktopWindow xc yc frame creation =>
      exact iff_of_true (rebuilt_tabDescribes _ tree) trivial
  | closeMiniView hMiniView => exact iff_of_true (rebuilt_tabDescribes _ tree) trivial
  | clearMiniViews =>
      cases overlaySteps
      exact cleared_tabDescribes_iff kept
  | _ =>
      refine iff_of_true ?_ trivial
      exact sameNames_tabDescribes kept (MiniViews.step_names overlaySteps rfl)

theorem tabDescribes_step {app next : Application} {event : Event} (kept : app.TabDescribes)
    (stepped : next ∈ app.step event) : next.TabDescribes ↔ app.KeepsTab event := by
  cases event with
  | overlay event tree => exact overlay_step kept stepped
  | notifyChange tree =>
      cases stepped
      exact iff_of_true (notifyChange_tabDescribes kept tree) trivial
  | openDialog creation tree =>
      cases stepped
      exact iff_of_true (createDialog_tabDescribes kept creation tree) trivial
  | toggleShown creation tree =>
      cases stepped
      exact iff_of_true (toggleShown_tabDescribes kept creation tree) trivial
  | sysCommandMinimize useNotificationIcon minimizeToNotificationIcon =>
      refine iff_of_true ?_ trivial
      simp only [step] at stepped
      split at stepped <;> cases stepped
      simp only [MainDialog.sysCommandMinimize]
      split
      · exact tabDescribes_of_hidden app.mainDialog.destroyThis_hides
      · exact kept
  | tabSelChange curSel tree =>
      refine iff_of_true ?_ trivial
      simp only [step] at stepped
      split at stepped <;> cases stepped
      intro shows
      exact app.mainDialog.tabSelChange_describes tree app.getMiniViewList curSel shows
  | notifyTreeItemSelected newValue =>
      refine iff_of_true ?_ trivial
      simp only [step] at stepped
      split at stepped <;> cases stepped
      intro shows
      exact ViewsWindow.notifyTreeItemSelected_describes (kept shows) newValue

theorem tabDescribes_iff (app : Application) (event : Event) (kept : app.TabDescribes) :
    Runs.After step (fun _ _ next => next.TabDescribes) app event ↔ app.KeepsTab event := by
  apply Runs.after_iff
  · intro blocked
    cases event with
    | overlay event tree =>
        cases event with
        | clearMiniViews => cases blocked
        | _ => trivial
    | _ => trivial
  · exact fun next stepped => tabDescribes_step kept stepped

/-- Along any run, an open Views tab describes the views of the overlay exactly if the views are
never cleared under it, or only when there are none. -/
theorem viewsTab_describes_iff (defaultOpacity : UInt8) (events : List Event) :
    Runs.Along step (Runs.After step fun _ _ next => next.TabDescribes)
        (init defaultOpacity) events ↔
      Runs.Along step KeepsTab (init defaultOpacity) events := by
  have initial : (init defaultOpacity).TabDescribes := tabDescribes_of_hidden rfl
  refine Runs.along_iff_of_exact tabDescribes_iff ?_ initial
  intro app event kept keeps next stepped
  exact (tabDescribes_step kept stepped).mpr keeps

def untitled : TreeControl := ⟨fun _ => "", [], fun _ => []⟩

/-- The tray menu clears the views under the open tab. -/
theorem viewsTab_outlives_views :
    ¬ ∀ (defaultOpacity : UInt8) (events : List Event),
      Runs.Along step (Runs.After step fun _ _ next => next.TabDescribes)
        (init defaultOpacity) events := by
  intro claim
  have described := claim 175
    [.openDialog ⟨true, 2⟩ untitled, .tabSelChange .viewsTab untitled,
      .overlay (.addMiniView MiniViews.anyUser MiniViews.anyDesktop 1 50 50 Frame.none ⟨true, 3⟩)
        untitled,
      .overlay .clearMiniViews untitled]
  revert described
  decide

end Application

end LeanMiniViews
