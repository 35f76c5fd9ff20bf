import LeanMiniViews.MiniViewFrames
import LeanMiniViews.OverlayCore
import LeanMiniViews.Runs

/-!
The four edges of the clip, typed one at a time in the Views tab. An edge is clamped to the
source and not to the edge on the other side.
-/

namespace LeanMiniViews

structure Rect.WithinSource (rect : Rect) (sourceWidth sourceHeight : Int) : Prop where
  left_nonneg : 0 ≤ rect.left
  left_le_right : rect.left ≤ rect.right
  right_le : rect.right ≤ sourceWidth
  top_nonneg : 0 ≤ rect.top
  top_le_bottom : rect.top ≤ rect.bottom
  bottom_le : rect.bottom ≤ sourceHeight

namespace ClipSel

theorem selection_withinSource {clipSel : ClipSel} {xc yc sourceWidth sourceHeight : Int}
    (left : 0 ≤ (clipSel.selection xc yc).left) (top : 0 ≤ (clipSel.selection xc yc).top)
    (right : (clipSel.selection xc yc).right ≤ sourceWidth)
    (bottom : (clipSel.selection xc yc).bottom ≤ sourceHeight) :
    (clipSel.selection xc yc).WithinSource sourceWidth sourceHeight :=
  ⟨left, min_le_max, right, top, min_le_max, bottom⟩

end ClipSel

namespace MiniView

/-! One edge. -/

theorem clampedEdge_bounds {last : Int} {source : Option SourceWindow}
    (exists_source : source.isSome = true) (last_nonneg : 0 ≤ last) (new old : Int) :
    0 ≤ clampedEdge last new old source ∧ clampedEdge last new old source ≤ last := by
  simp only [clampedEdge, exists_source, if_true]
  split
  · omega
  · split <;> omega

theorem clampedEdge_le_iff {last other : Int} {source : Option SourceWindow}
    (exists_source : source.isSome = true) (other_nonneg : 0 ≤ other) (other_le : other ≤ last)
    (new old : Int) :
    clampedEdge last new old source ≤ other ↔ new ≤ other ∨ other = last := by
  simp only [clampedEdge, exists_source, if_true]
  split
  · omega
  · split <;> omega

theorem le_clampedEdge_iff {last other : Int} {source : Option SourceWindow}
    (exists_source : source.isSome = true) (other_nonneg : 0 ≤ other) (other_le : other ≤ last)
    (new old : Int) :
    other ≤ clampedEdge last new old source ↔ other ≤ new ∨ other = 0 := by
  simp only [clampedEdge, exists_source, if_true]
  split
  · omega
  · split <;> omega

/-! Runs of edits. -/

def adjustsClip : Op → Bool
  | .adjustClipTop _ => true
  | .adjustClipLeft _ => true
  | .adjustClipRight _ => true
  | .adjustClipBottom _ => true
  | _ => false

/-- An edit of the clip of a source of this size. -/
structure EditsClip (sourceWidth sourceHeight : Int) (call : Call) : Prop where
  edits : adjustsClip call.op = true
  exists_source : call.desktop.source.isSome = true
  width : call.desktop.sourceWidth = sourceWidth
  height : call.desktop.sourceHeight = sourceHeight

instance (sourceWidth sourceHeight : Int) (call : Call) :
    Decidable (EditsClip sourceWidth sourceHeight call) :=
  decidable_of_iff
    (adjustsClip call.op = true ∧ call.desktop.source.isSome = true ∧
      call.desktop.sourceWidth = sourceWidth ∧ call.desktop.sourceHeight = sourceHeight)
    ⟨fun ⟨edits, exists_source, width, height⟩ => ⟨edits, exists_source, width, height⟩,
    fun edit => ⟨edit.1, edit.2, edit.3, edit.4⟩⟩

/-- The whole source, or a rectangle inside it that was drawn with the mouse. -/
def DrawnClip (sourceWidth sourceHeight : Int) (rect : Rect) : Prop :=
  rect = ⟨0, 0, sourceWidth, sourceHeight⟩ ∨
    ∃ (clipSel : ClipSel) (xc yc : Int), rect = clipSel.selection xc yc ∧
      0 ≤ rect.left ∧ 0 ≤ rect.top ∧ rect.right ≤ sourceWidth ∧ rect.bottom ≤ sourceHeight

theorem DrawnClip.withinSource {sourceWidth sourceHeight : Int} {rect : Rect}
    (drawn : DrawnClip sourceWidth sourceHeight rect) (wide : 0 < sourceWidth)
    (high : 0 < sourceHeight) : rect.WithinSource sourceWidth sourceHeight := by
  rcases drawn with rfl | ⟨clipSel, xc, yc, rfl, left, top, right, bottom⟩
  · exact ⟨le_rfl, wide.le, le_rfl, le_rfl, high.le, le_rfl⟩
  · exact ClipSel.selection_withinSource left top right bottom

/-- The clip is well formed and no size derived from it is negative. -/
structure ClipWellFormed (view : MiniView) (desktop : Desktop) : Prop where
  within : view.rcClip.WithinSource desktop.sourceWidth desktop.sourceHeight
  shownWidth : 0 ≤ view.shownWidth desktop
  shownHeight : 0 ≤ view.shownHeight desktop

theorem clipWellFormed_iff {view : MiniView} {desktop : Desktop}
    (wide : 0 < desktop.sourceWidth) (high : 0 < desktop.sourceHeight) :
    view.ClipWellFormed desktop ↔
      view.rcClip.WithinSource desktop.sourceWidth desktop.sourceHeight := by
  constructor
  · exact fun wellFormed => wellFormed.within
  · intro within
    have across := within.left_le_right
    have down := within.top_le_bottom
    refine ⟨within, ?_, ?_⟩
    · simp only [shownWidth]
      split <;> omega
    · simp only [shownHeight]
      split <;> omega

/-- An edge is not typed past the edge on the other side, unless the clamp takes it back. -/
def KeepsOrder (view : MiniView) (call : Call) : Prop :=
  match call.op with
  | .adjustClipTop newTop =>
      newTop ≤ view.rcClip.bottom ∨ view.rcClip.bottom = call.desktop.sourceHeight
  | .adjustClipLeft newLeft =>
      newLeft ≤ view.rcClip.right ∨ view.rcClip.right = call.desktop.sourceWidth
  | .adjustClipRight newRight => view.rcClip.left ≤ newRight ∨ view.rcClip.left = 0
  | .adjustClipBottom newBottom => view.rcClip.top ≤ newBottom ∨ view.rcClip.top = 0
  | _ => True

instance (view : MiniView) (call : Call) : Decidable (view.KeepsOrder call) := by
  unfold KeepsOrder
  split <;> infer_instance

theorem edited_within_iff {view : MiniView} {call : Call} {sourceWidth sourceHeight : Int}
    (within : view.rcClip.WithinSource sourceWidth sourceHeight)
    (edit : EditsClip sourceWidth sourceHeight call) {next : MiniView}
    (stepped : next ∈ view.step call) :
    next.rcClip.WithinSource sourceWidth sourceHeight ↔ view.KeepsOrder call := by
  obtain ⟨user, desktop, op⟩ := call
  obtain ⟨edits, exists_source, rfl, rfl⟩ := edit
  obtain ⟨left, across, right, top, down, bottom⟩ := within
  have wide := left.trans (across.trans right)
  have high := top.trans (down.trans bottom)
  cases op with
  | adjustClipTop newTop =>
      cases stepped
      have bounds := clampedEdge_bounds exists_source high newTop view.rcClip.top
      refine Iff.trans ?_ (clampedEdge_le_iff exists_source (top.trans down) bottom newTop
        view.rcClip.top)
      exact ⟨fun next => next.top_le_bottom,
        fun ordered => ⟨left, across, right, bounds.1, ordered, bottom⟩⟩
  | adjustClipLeft newLeft =>
      cases stepped
      have bounds := clampedEdge_bounds exists_source wide newLeft view.rcClip.left
      refine Iff.trans ?_ (clampedEdge_le_iff exists_source (left.trans across) right newLeft
        view.rcClip.left)
      exact ⟨fun next => next.left_le_right,
        fun ordered => ⟨bounds.1, ordered, right, top, down, bottom⟩⟩
  | adjustClipRight newRight =>
      cases stepped
      have bounds := clampedEdge_bounds exists_source wide newRight view.rcClip.right
      refine Iff.trans ?_ (le_clampedEdge_iff exists_source left (across.trans right) newRight
        view.rcClip.right)
      exact ⟨fun next => next.left_le_right,
        fun ordered => ⟨left, ordered, bounds.2, top, down, bottom⟩⟩
  | adjustClipBottom newBottom =>
      cases stepped
      have bounds := clampedEdge_bounds exists_source high newBottom view.rcClip.bottom
      refine Iff.trans ?_ (le_clampedEdge_iff exists_source top (down.trans bottom) newBottom
        view.rcClip.bottom)
      exact ⟨fun next => next.top_le_bottom,
        fun ordered => ⟨left, across, right, top, ordered, bounds.2⟩⟩
  | _ => cases edits

theorem step_edit (view : MiniView) {call : Call} {sourceWidth sourceHeight : Int}
    (edit : EditsClip sourceWidth sourceHeight call) : (view.step call).isSome = true := by
  obtain ⟨user, desktop, op⟩ := call
  have edits := edit.edits
  cases op <;> first | rfl | cases edits

theorem after_edit_iff {view : MiniView} {call : Call} {sourceWidth sourceHeight : Int}
    (wide : 0 < sourceWidth) (high : 0 < sourceHeight)
    (within : view.rcClip.WithinSource sourceWidth sourceHeight)
    (edit : EditsClip sourceWidth sourceHeight call) :
    Runs.After step (fun _ call next => next.ClipWellFormed call.desktop) view call ↔
      view.KeepsOrder call := by
  apply Runs.after_iff
  · intro blocked
    exact absurd (step_edit view edit) (by simp [blocked])
  · intro next stepped
    rw [clipWellFormed_iff (edit.width ▸ wide) (edit.height ▸ high), edit.width, edit.height]
    exact edited_within_iff within edit stepped

/-- The clip stays well formed as long as every edit keeps the order of the edges, and no
longer. -/
theorem adjustClip_wellFormed_iff {sourceWidth sourceHeight : Int} (wide : 0 < sourceWidth)
    (high : 0 < sourceHeight) (view : MiniView)
    (drawn : DrawnClip sourceWidth sourceHeight view.rcClip) (calls : List Call)
    (edits : ∀ call ∈ calls, EditsClip sourceWidth sourceHeight call) :
    Runs.Along step (Runs.After step fun _ call next => next.ClipWellFormed call.desktop)
        view calls ↔
      Runs.Along step KeepsOrder view calls := by
  have assumed : Runs.Along step (fun _ call => EditsClip sourceWidth sourceHeight call)
      view calls := Runs.along_of_forall fun _ call member => edits call member
  have ordered_edit (view : MiniView) (call : Call)
      (within : view.rcClip.WithinSource sourceWidth sourceHeight)
      (edit : EditsClip sourceWidth sourceHeight call) (ordered : view.KeepsOrder call) :
      ∀ next ∈ view.step call, next.rcClip.WithinSource sourceWidth sourceHeight :=
    fun _ stepped => (edited_within_iff within edit stepped).mpr ordered
  refine Runs.along_iff_of_invariant ?_ ordered_edit (drawn.withinSource wide high) assumed
  exact fun _ _ within edit => after_edit_iff wide high within edit

/-- 800 by 600 pixels are shown, and the right edge is moved to 300. -/
def editedView : MiniView :=
  { init ⟨false, false, false, false⟩ with clipped := true, rcClip := ⟨0, 0, 800, 600⟩ }

def editOf (op : Op) : Call :=
  ⟨⟨false, false, false, false⟩, ⟨some ⟨0, 0, 800, 600⟩, false, ⟨none, ⟨800, 600⟩⟩, 0, 0⟩, op⟩

theorem adjustClip_wellFormed_editedView :
    Runs.Along step (Runs.After step fun _ call next => next.ClipWellFormed call.desktop)
      editedView [editOf (.adjustClipRight 300), editOf (.adjustClipLeft 299)] :=
  (adjustClip_wellFormed_iff (by decide) (by decide) editedView (Or.inl rfl) _ (by decide)).mpr
    (by decide)

/-- The left edge is typed to the right of the right edge. -/
theorem adjustClip_crossed :
    ¬ ∀ (sourceWidth sourceHeight : Int), 0 < sourceWidth → 0 < sourceHeight →
      ∀ (view : MiniView), DrawnClip sourceWidth sourceHeight view.rcClip →
      ∀ (calls : List Call), (∀ call ∈ calls, EditsClip sourceWidth sourceHeight call) →
        Runs.Along step (Runs.After step fun _ call next => next.ClipWellFormed call.desktop)
          view calls := by
  intro claim
  have run := claim 800 600 (by decide) (by decide) editedView (Or.inl rfl)
    [editOf (.adjustClipRight 300), editOf (.adjustClipLeft 500)] (by decide)
  have second := (run.2 _ rfl).1 _ rfl
  exact absurd second.shownWidth (by decide)

end MiniView

end LeanMiniViews
