import LeanMiniViews.MiniViewFrames
import LeanMiniViews.MirrorClip

/-!
A clip is stored twice, in the view and in its mirror. When the two copies agree, over any
operations of a view that uses graphics capture and any frames in between.
-/

namespace LeanMiniViews

def Desktop.HasSource (desktop : Desktop) : Prop :=
  0 < desktop.sourceWidth ∧ 0 < desktop.sourceHeight

instance (desktop : Desktop) : Decidable desktop.HasSource := inferInstanceAs (Decidable (_ ∧ _))

theorem Desktop.HasSource.exists {desktop : Desktop} (sized : desktop.HasSource) :
    desktop.source.isSome = true := by
  cases found : desktop.source with
  | none => simp [HasSource, sourceWidth, found] at sized
  | some source => rfl

namespace Mirror

def HoldsNoClip (mirror : Mirror) : Prop :=
  mirror.clipped = false ∧ mirror.gdiClipRegion = Rect.empty

instance (mirror : Mirror) : Decidable mirror.HoldsNoClip := inferInstanceAs (Decidable (_ ∧ _))

theorem createMirrorNoLock_holdsNoClip (mirror : Mirror) (hParent sourceWindow : HWND)
    (item : CaptureItem) :
    (mirror.createMirrorNoLock hParent sourceWindow item).HoldsNoClip :=
  ⟨createMirrorNoLock_clipped _ _ _ _ _ _, createMirrorNoLock_gdiClipRegion _ _ _ _ _ _⟩

theorem handleSourceSizeChange_sourceHasSize {mirror : Mirror}
    (held : mirror.clipped = true ∨ mirror.clipPaused = true) {sourceWidth sourceHeight : Int}
    (wide : 0 < sourceWidth) (high : 0 < sourceHeight) (item : CaptureItem) :
    (mirror.handleSourceSizeChange sourceWidth sourceHeight item).sourceHasSize = true := by
  simp only [handleSourceSizeChange]
  split
  · simp [setClipNoLock, sourceHasSize, wide, high]
  · rename_i unclipped
    rw [if_pos (held.resolve_left unclipped)]
    simp [setClipNoLock, sourceHasSize, wide, high]

theorem presented_holdsClip {mirror : Mirror} {region : Rect} (holds : mirror.HoldsClip region)
    (sized : mirror.sourceHasSize = true) (contentSize : SizeInt32) (chain : SwapChain) :
    (mirror.presented contentSize chain).HoldsClip region ∧
      (mirror.presented contentSize chain).sourceHasSize = true := by
  obtain ⟨same, held⟩ := holds
  rcases noted_cases mirror contentSize with
    ⟨-, noted⟩ | ⟨-, noted, -⟩ | ⟨-, -, noted, -⟩ | ⟨-, unsized, -⟩
  · simp only [presented, noted]
    exact ⟨⟨same, held⟩, sized⟩
  · simp only [presented, noted]
    exact ⟨⟨same, held⟩, sized⟩
  · simp only [presented, noted]
    exact ⟨⟨same, Or.inr rfl⟩, sized⟩
  · simp [unsized] at sized

theorem presented_holdsNoClip {mirror : Mirror} (free : mirror.HoldsNoClip)
    (contentSize : SizeInt32) (chain : SwapChain) :
    (mirror.presented contentSize chain).HoldsNoClip := by
  have noted := noted_of_unclipped free.1 contentSize
  simp only [presented, noted]
  exact free

end Mirror

namespace MiniView

def ClipAgrees (view : MiniView) : Prop :=
  if view.clipped then view.graphicsCaptureMirror.gdiClipRegion = view.rcClip
  else view.graphicsCaptureMirror.HoldsNoClip

instance (view : MiniView) : Decidable view.ClipAgrees := by
  unfold ClipAgrees
  infer_instance

/-- A view that uses graphics capture and agrees with its mirror, which will still apply the
clip of a clipped view to a source of known size. -/
structure Captures (view : MiniView) : Prop where
  compatible : view.isGraphicsCaptureCompatible = true
  clip : view.clipped = true →
    view.graphicsCaptureMirror.HoldsClip view.rcClip ∧
      view.graphicsCaptureMirror.sourceHasSize = true
  noClip : view.clipped = false → view.graphicsCaptureMirror.HoldsNoClip

theorem Captures.agrees {view : MiniView} (captures : view.Captures) : view.ClipAgrees := by
  unfold ClipAgrees
  split
  · rename_i clipped
    exact (captures.clip clipped).1.1
  · rename_i unclipped
    exact captures.noClip (by simpa using unclipped)

structure SameClip (view other : MiniView) : Prop where
  graphicsCaptureMirror : other.graphicsCaptureMirror = view.graphicsCaptureMirror
  isGraphicsCaptureCompatible :
    other.isGraphicsCaptureCompatible = view.isGraphicsCaptureCompatible
  clipped : other.clipped = view.clipped
  rcClip : other.rcClip = view.rcClip

theorem Captures.of_same {view other : MiniView} (captures : view.Captures)
    (same : SameClip view other) : other.Captures := by
  obtain ⟨mirror, compatible, clipped, rcClip⟩ := same
  refine ⟨compatible.trans captures.compatible, ?_, ?_⟩
  · rw [clipped, mirror, rcClip]
    exact captures.clip
  · rw [clipped, mirror]
    exact captures.noClip

theorem fixRatio_sameClip (view : MiniView) (desktop : Desktop) :
    SameClip view (view.fixRatio desktop) := by
  rw [fixRatio_eq]
  exact ⟨rfl, rfl, rfl, rfl⟩

theorem checkHideBySourceOnTop_sameClip (view : MiniView) (isSourceOnTop : Bool) :
    SameClip view (view.checkHideBySourceOnTop isSourceOnTop) := by
  rw [checkHideBySourceOnTop_eq]
  exact ⟨rfl, rfl, rfl, rfl⟩

theorem forwardClip_captures (view : MiniView) {desktop : Desktop}
    (compatible : view.isGraphicsCaptureCompatible = true) (clipped : view.clipped = true)
    (sized : desktop.HasSource) :
    { view with graphicsCaptureMirror := view.forwardClip desktop }.Captures := by
  refine ⟨compatible, fun _ => ⟨⟨rfl, Or.inl rfl⟩, ?_⟩, fun unclipped => ?_⟩
  · simp [forwardClip, Mirror.setClip, Mirror.setClipNoLock, Mirror.sourceHasSize, sized.1,
      sized.2]
  · simp [clipped] at unclipped

theorem matchSource_captures {view : MiniView}
    (compatible : view.isGraphicsCaptureCompatible = true)
    (noClip : view.clipped = false → view.graphicsCaptureMirror.HoldsNoClip)
    {desktop : Desktop} (sized : desktop.HasSource) (matchPos matchSize : Bool) :
    (view.matchSource desktop matchPos matchSize).Captures := by
  have resent : ∀ matched : MiniView, SameClip view matched →
      (matched.recreateMirror desktop).Captures := by
    intro matched same
    have captures := same.isGraphicsCaptureCompatible.trans compatible
    cases clipped : matched.clipped with
    | true =>
        have recreates : (matched.clipped && matched.isGraphicsCaptureCompatible) = true := by
          simp [clipped, captures]
        rw [recreateMirror, if_pos recreates]
        exact forwardClip_captures { matched with
          graphicsCaptureMirror := matched.graphicsCaptureMirror.createMirror matched.window.hWnd
            matched.hSource desktop.captureItem } captures clipped sized
    | false =>
        have keeps : matched.recreateMirror desktop = matched := by
          simp [recreateMirror, clipped]
        rw [keeps]
        refine ⟨captures, fun clips => absurd clips (by simp [clipped]), fun free => ?_⟩
        rw [same.graphicsCaptureMirror]
        exact noClip (same.clipped.symm.trans free)
  simp only [matchSource]
  refine resent _ ?_
  split <;> exact ⟨rfl, rfl, rfl, rfl⟩

theorem setClip_captures {view : MiniView} (captures : view.Captures) {desktop : Desktop}
    (sized : desktop.HasSource) (user : MiniViewUser) (rect : Rect) :
    (view.setClip user desktop true rect.left rect.top rect.right rect.bottom).Captures := by
  let chosen := { view with clipped := true, rcClip := rect }
  have fixed : ((chosen.matchSourceByDefault user desktop).fixRatio
      desktop).isGraphicsCaptureCompatible = true ∧
      ((chosen.matchSourceByDefault user desktop).fixRatio desktop).clipped = true := by
    rw [fixRatio_eq]
    simp only [matchSourceByDefault]
    split
    · rw [matchSource_eq]
      exact ⟨captures.compatible, rfl⟩
    · exact ⟨captures.compatible, rfl⟩
  have forwarded : view.setClip user desktop true rect.left rect.top rect.right rect.bottom =
      { (chosen.matchSourceByDefault user desktop).fixRatio desktop with
        graphicsCaptureMirror :=
          ((chosen.matchSourceByDefault user desktop).fixRatio desktop).forwardClip desktop } := by
    simp only [setClip, if_true]
    exact if_pos fixed.1
  rw [forwarded]
  exact forwardClip_captures _ fixed.1 fixed.2 sized

theorem clearClipRegion_captures {view : MiniView} (captures : view.Captures)
    (desktop : Desktop) : (view.clearClipRegion desktop).Captures := by
  simp only [clearClipRegion, captures.compatible, if_true]
  refine Captures.of_same ⟨rfl, fun clipped => (by cases clipped), fun _ => ?_⟩
    (fixRatio_sameClip _ _)
  exact Mirror.createMirrorNoLock_holdsNoClip _ _ _ _

theorem sizeFinished_captures {view : MiniView} (captures : view.Captures) {desktop : Desktop}
    (sized : desktop.HasSource) : (view.sizeFinished desktop).Captures := by
  simp only [sizeFinished]
  split
  · rename_i clips
    rw [Bool.and_eq_true] at clips
    exact forwardClip_captures _ clips.2 clips.1 sized
  · exact captures

theorem frameArrived_captures {view next : MiniView} (captures : view.Captures)
    {contentSize : SizeInt32} (arrived : view.frameArrived contentSize = some next) :
    next.Captures := by
  simp only [frameArrived, Mirror.step_frameArrived, Option.map_map,
    Option.map_eq_some_iff] at arrived
  obtain ⟨chain, -, rfl⟩ := arrived
  refine ⟨captures.compatible, fun clipped => ?_, fun unclipped => ?_⟩
  · obtain ⟨holds, sized⟩ := captures.clip clipped
    exact Mirror.presented_holdsClip holds sized contentSize chain
  · exact Mirror.presented_holdsNoClip (captures.noClip unclipped) contentSize chain

/-- A size change reaches the mirror of an unclipped view that a frame has marked as paused. -/
def Resumes (view : MiniView) (desktop : Desktop) : Prop :=
  view.clipped = false ∧ view.graphicsCaptureMirror.clipPaused = true ∧
    (view.sourceSize.cx ≠ desktop.sourceWidth ∨ view.sourceSize.cy ≠ desktop.sourceHeight)

instance (view : MiniView) (desktop : Desktop) : Decidable (view.Resumes desktop) :=
  inferInstanceAs (Decidable (_ ∧ _))

theorem validateProperties_sameClip {view : MiniView} {desktop : Desktop}
    (compatible : view.isGraphicsCaptureCompatible = true) (sized : desktop.HasSource) :
    SameClip
      (if view.sourceSize.cx ≠ desktop.sourceWidth ∨ view.sourceSize.cy ≠ desktop.sourceHeight then
        { view with
          graphicsCaptureMirror := view.graphicsCaptureMirror.handleSourceSizeChange
            desktop.sourceWidth desktop.sourceHeight desktop.captureItem }
      else view)
      (view.validateProperties desktop) := by
  have checked := checkHideBySourceOnTop_sameClip view desktop.sourceOnTop
  let resized := { view.checkHideBySourceOnTop desktop.sourceOnTop with
    sourceSize := ⟨desktop.sourceWidth, desktop.sourceHeight⟩ }
  have fixed := fixRatio_sameClip resized desktop
  simp only [validateProperties, sized.exists, if_true, checkHideBySourceOnTop_sourceSize]
  split
  · have captures : (resized.fixRatio desktop).isGraphicsCaptureCompatible = true :=
      (fixed.isGraphicsCaptureCompatible.trans
        checked.isGraphicsCaptureCompatible).trans compatible
    have mirror : (resized.fixRatio desktop).graphicsCaptureMirror = view.graphicsCaptureMirror :=
      fixed.graphicsCaptureMirror.trans checked.graphicsCaptureMirror
    rw [if_pos captures, mirror]
    exact ⟨rfl, captures.trans compatible.symm, fixed.clipped.trans checked.clipped,
      fixed.rcClip.trans checked.rcClip⟩
  · exact checked

theorem validateProperties_captures {view : MiniView} (captures : view.Captures)
    {desktop : Desktop} (sized : desktop.HasSource) (keeps : ¬ view.Resumes desktop) :
    (view.validateProperties desktop).Captures := by
  refine Captures.of_same ?_ (validateProperties_sameClip captures.compatible sized)
  split
  · rename_i resized
    refine ⟨captures.compatible, fun clipped => ?_, fun unclipped => ?_⟩
    · obtain ⟨⟨same, held⟩, -⟩ := captures.clip clipped
      have resumed := Mirror.handleSourceSizeChange_of_held held desktop.sourceWidth
        desktop.sourceHeight desktop.captureItem
      exact ⟨⟨resumed.2.1.trans same, Or.inl resumed.1⟩,
        Mirror.handleSourceSizeChange_sourceHasSize held sized.1 sized.2 _⟩
    · have running : view.graphicsCaptureMirror.clipPaused = false := by
        by_contra paused
        exact keeps ⟨unclipped, by simpa using paused, resized⟩
      rw [Mirror.handleSourceSizeChange_of_free (captures.noClip unclipped).1 running]
      exact Mirror.createMirrorNoLock_holdsNoClip _ _ _ _
  · exact captures

theorem validateProperties_disagrees {view : MiniView} (captures : view.Captures)
    {desktop : Desktop} (sized : desktop.HasSource) (resumes : view.Resumes desktop) :
    ¬ (view.validateProperties desktop).ClipAgrees := by
  obtain ⟨unclipped, paused, resized⟩ := resumes
  have same := validateProperties_sameClip captures.compatible sized
  rw [if_pos resized] at same
  have clipped := (Mirror.handleSourceSizeChange_of_held (Or.inr paused) desktop.sourceWidth
    desktop.sourceHeight desktop.captureItem).1
  intro agrees
  simp only [ClipAgrees, same.clipped, unclipped, same.graphicsCaptureMirror,
    Bool.false_eq_true, if_false] at agrees
  simp [agrees.1] at clipped

def KeepsAgreement (view : MiniView) (call : Call) : Prop :=
  match call.op with
  | .setClip isClipped _ =>
      isClipped = false → view.clipped = true →
        view.graphicsCaptureMirror.clipped = false ∧ view.rcClip = Rect.empty
  | .adjustClipTop newTop =>
      view.clipped = true →
        clampedEdge call.desktop.sourceHeight newTop view.rcClip.top call.desktop.source =
          view.rcClip.top
  | .adjustClipLeft newLeft =>
      view.clipped = true →
        clampedEdge call.desktop.sourceWidth newLeft view.rcClip.left call.desktop.source =
          view.rcClip.left
  | .adjustClipRight newRight =>
      view.clipped = true →
        clampedEdge call.desktop.sourceWidth newRight view.rcClip.right call.desktop.source =
          view.rcClip.right
  | .adjustClipBottom newBottom =>
      view.clipped = true →
        clampedEdge call.desktop.sourceHeight newBottom view.rcClip.bottom call.desktop.source =
          view.rcClip.bottom
  | .validateProperties => ¬ view.Resumes call.desktop
  | _ => True

instance (view : MiniView) : ∀ call, Decidable (view.KeepsAgreement call)
  | ⟨_, _, .setClip _ _⟩ | ⟨_, _, .adjustClipTop _⟩ | ⟨_, _, .adjustClipLeft _⟩
  | ⟨_, _, .adjustClipRight _⟩ | ⟨_, _, .adjustClipBottom _⟩ | ⟨_, _, .validateProperties⟩ => by
      unfold KeepsAgreement
      infer_instance
  | ⟨_, _, .clearClipRegion⟩ | ⟨_, _, .adjustWindowLeft _⟩ | ⟨_, _, .adjustWindowTop _⟩
  | ⟨_, _, .adjustCliWidth _⟩ | ⟨_, _, .adjustCliHeight _⟩ | ⟨_, _, .setEditMode _⟩
  | ⟨_, _, .showByParentRequest⟩ | ⟨_, _, .hideByParentRequest⟩
  | ⟨_, _, .toggleHideWhenSourceOnTop⟩ | ⟨_, _, .toggleLockRatio⟩ | ⟨_, _, .matchSource _ _⟩
  | ⟨_, _, .doSizing _ _⟩ | ⟨_, _, .sizeFinished⟩ | ⟨_, _, .frameArrived _⟩ => isTrue trivial

theorem edited_captures {view edited : MiniView} (captures : view.Captures)
    (mirror : edited.graphicsCaptureMirror = view.graphicsCaptureMirror)
    (compatible : edited.isGraphicsCaptureCompatible = view.isGraphicsCaptureCompatible)
    (clipped : edited.clipped = view.clipped)
    (same : view.clipped = true → edited.rcClip = view.rcClip) : edited.Captures := by
  refine ⟨compatible.trans captures.compatible, fun clips => ?_, fun free => ?_⟩
  · rw [clipped] at clips
    rw [mirror, same clips]
    exact captures.clip clips
  · rw [mirror]
    exact captures.noClip (clipped.symm.trans free)

theorem edited_agrees {view : MiniView} (edited : MiniView) (captures : view.Captures)
    (mirror : edited.graphicsCaptureMirror = view.graphicsCaptureMirror)
    (clipped : edited.clipped = view.clipped) (agrees : edited.ClipAgrees)
    (clips : view.clipped = true) : edited.rcClip = view.rcClip := by
  simp only [ClipAgrees, clipped, clips, if_true, mirror] at agrees
  exact agrees.symm.trans (captures.clip clips).1.1

theorem captures_step {view next : MiniView} {call : Call} (captures : view.Captures)
    (sized : call.desktop.HasSource) (keeps : view.KeepsAgreement call)
    (stepped : next ∈ view.step call) : next.Captures := by
  obtain ⟨user, desktop, op⟩ := call
  cases op with
  | setClip isClipped rect =>
      cases stepped
      cases isClipped with
      | true => exact setClip_captures captures sized user rect
      | false =>
          refine ⟨captures.compatible, fun clipped => (by cases clipped), fun _ => ?_⟩
          cases clipped : view.clipped with
          | false => exact captures.noClip clipped
          | true =>
              obtain ⟨unclipped, empty⟩ := keeps rfl clipped
              exact ⟨unclipped, (captures.clip clipped).1.1.trans empty⟩
  | clearClipRegion =>
      cases stepped
      exact clearClipRegion_captures captures desktop
  | adjustClipTop newTop =>
      cases stepped
      refine edited_captures captures rfl rfl rfl fun clipped => ?_
      exact congrArg (fun top => { view.rcClip with top := top }) (keeps clipped)
  | adjustClipLeft newLeft =>
      cases stepped
      refine edited_captures captures rfl rfl rfl fun clipped => ?_
      exact congrArg (fun left => { view.rcClip with left := left }) (keeps clipped)
  | adjustClipRight newRight =>
      cases stepped
      refine edited_captures captures rfl rfl rfl fun clipped => ?_
      exact congrArg (fun right => { view.rcClip with right := right }) (keeps clipped)
  | adjustClipBottom newBottom =>
      cases stepped
      refine edited_captures captures rfl rfl rfl fun clipped => ?_
      exact congrArg (fun bottom => { view.rcClip with bottom := bottom }) (keeps clipped)
  | adjustWindowLeft newLeft =>
      cases stepped
      exact captures.of_same ⟨rfl, rfl, rfl, rfl⟩
  | adjustWindowTop newTop =>
      cases stepped
      exact captures.of_same ⟨rfl, rfl, rfl, rfl⟩
  | adjustCliWidth newCliWidth =>
      cases stepped
      simp only [adjustCliWidth]
      split <;> exact captures.of_same ⟨rfl, rfl, rfl, rfl⟩
  | adjustCliHeight newCliHeight =>
      cases stepped
      simp only [adjustCliHeight]
      split <;> exact captures.of_same ⟨rfl, rfl, rfl, rfl⟩
  | setEditMode newStatus =>
      cases stepped
      exact captures.of_same ⟨rfl, rfl, rfl, rfl⟩
  | validateProperties =>
      cases stepped
      exact validateProperties_captures captures sized keeps
  | showByParentRequest =>
      cases stepped
      exact captures.of_same ⟨rfl, rfl, rfl, rfl⟩
  | hideByParentRequest =>
      cases stepped
      exact captures.of_same ⟨rfl, rfl, rfl, rfl⟩
  | toggleHideWhenSourceOnTop =>
      cases stepped
      refine Captures.of_same ?_ (checkHideBySourceOnTop_sameClip _ _)
      split <;> exact captures.of_same ⟨rfl, rfl, rfl, rfl⟩
  | toggleLockRatio =>
      cases stepped
      have toggled : { view with lockRatio := !view.lockRatio }.Captures :=
        captures.of_same ⟨rfl, rfl, rfl, rfl⟩
      exact toggled.of_same (fixRatio_sameClip _ _)
  | matchSource matchPos matchSize =>
      cases stepped
      exact matchSource_captures captures.compatible captures.noClip sized matchPos matchSize
  | doSizing edge rect =>
      cases stepped
      simp only [sizing, doSizing]
      split <;> exact captures.of_same ⟨rfl, rfl, rfl, rfl⟩
  | sizeFinished =>
      cases stepped
      exact sizeFinished_captures captures sized
  | frameArrived contentSize => exact frameArrived_captures captures stepped

theorem keepsAgreement_of_agrees {view next : MiniView} {call : Call} (captures : view.Captures)
    (sized : call.desktop.HasSource) (stepped : next ∈ view.step call)
    (agrees : next.ClipAgrees) : view.KeepsAgreement call := by
  obtain ⟨user, desktop, op⟩ := call
  cases op with
  | setClip isClipped rect =>
      intro unclips clipped
      subst unclips
      cases stepped
      obtain ⟨unclipped, empty⟩ := agrees
      exact ⟨unclipped, (captures.clip clipped).1.1.symm.trans empty⟩
  | adjustClipTop newTop =>
      cases stepped
      exact fun clipped => congrArg Rect.top
        (edited_agrees (view.adjustClipTop desktop newTop) captures rfl rfl agrees clipped)
  | adjustClipLeft newLeft =>
      cases stepped
      exact fun clipped => congrArg Rect.left
        (edited_agrees (view.adjustClipLeft desktop newLeft) captures rfl rfl agrees clipped)
  | adjustClipRight newRight =>
      cases stepped
      exact fun clipped => congrArg Rect.right
        (edited_agrees (view.adjustClipRight desktop newRight) captures rfl rfl agrees clipped)
  | adjustClipBottom newBottom =>
      cases stepped
      exact fun clipped => congrArg Rect.bottom
        (edited_agrees (view.adjustClipBottom desktop newBottom) captures rfl rfl agrees clipped)
  | validateProperties =>
      cases stepped
      exact fun resumes => validateProperties_disagrees captures sized resumes agrees
  | _ => trivial

theorem clipAgrees_iff (view : MiniView) (call : Call) (captures : view.Captures)
    (sized : call.desktop.HasSource) :
    Runs.After step (fun _ _ next => next.ClipAgrees) view call ↔ view.KeepsAgreement call := by
  apply Runs.after_iff
  · intro blocked
    -- Only a frame without a swap chain cannot be taken.
    obtain ⟨user, desktop, op⟩ := call
    cases op with
    | frameArrived contentSize => trivial
    | _ => cases blocked
  · intro next stepped
    constructor
    · exact keepsAgreement_of_agrees captures sized stepped
    · exact fun keeps => (captures_step captures sized keeps stepped).agrees

/-! From the drop on. -/

/-- A clip that was set before the drop is only sent to the mirror if the source is matched. -/
def KeepsAgreementAtDrop (view : MiniView) (user : MiniViewUser) : Prop :=
  view.clipped = true →
    user.defaultMatchSourcePosition = true ∨ user.defaultMatchSourceSize = true

instance (view : MiniView) (user : MiniViewUser) : Decidable (view.KeepsAgreementAtDrop user) :=
  inferInstanceAs (Decidable (_ → _))

structure Dropped (view : MiniView) : Prop where
  compatible : view.isGraphicsCaptureCompatible = true
  fresh : view.graphicsCaptureMirror.HoldsNoClip
  covers : view.rcClip ≠ Rect.empty

theorem matchSourceByDefault_agrees_iff {view : MiniView} (dropped : view.Dropped)
    {desktop : Desktop} (sized : desktop.HasSource) (user : MiniViewUser) :
    ((view.matchSourceByDefault user desktop).ClipAgrees ↔ view.KeepsAgreementAtDrop user) ∧
      (view.KeepsAgreementAtDrop user → (view.matchSourceByDefault user desktop).Captures) := by
  simp only [matchSourceByDefault, KeepsAgreementAtDrop, ← Bool.or_eq_true]
  split
  · rename_i isMatched
    have captures := matchSource_captures dropped.compatible (fun _ => dropped.fresh) sized
      user.defaultMatchSourcePosition user.defaultMatchSourceSize
    exact ⟨⟨fun _ _ => isMatched, fun _ => captures.agrees⟩, fun _ => captures⟩
  · rename_i unmatched
    cases clipped : view.clipped with
    | false =>
        have captures : view.Captures :=
          ⟨dropped.compatible, fun clips => absurd clips (by simp [clipped]),
            fun _ => dropped.fresh⟩
        exact ⟨⟨fun _ clips => (by cases clips), fun _ => captures.agrees⟩, fun _ => captures⟩
    | true =>
        refine ⟨⟨fun agrees => ?_, fun keeps => absurd (keeps rfl) unmatched⟩,
          fun keeps => absurd (keeps rfl) unmatched⟩
        simp only [ClipAgrees, clipped, if_true, dropped.fresh.2] at agrees
        exact absurd agrees.symm dropped.covers

theorem drop_agrees_iff (view : MiniView) (user : MiniViewUser) {desktop : Desktop}
    (sized : desktop.HasSource) {target : DropTarget}
    (captured : target.preferGraphicsCapture = true ∨ target.gdiImageValid = false) :
    ((view.drop user desktop target).ClipAgrees ↔ view.KeepsAgreementAtDrop user) ∧
      (view.KeepsAgreementAtDrop user → (view.drop user desktop target).Captures) := by
  have replicates : (!target.preferGraphicsCapture && target.gdiImageValid) = false := by
    rcases captured with prefers | invalid
    · simp [prefers]
    · simp [invalid]
  have covers : desktop.getClientRect view.rcClip ≠ Rect.empty := by
    cases found : desktop.source with
    | none => simp [Desktop.HasSource, Desktop.sourceWidth, found] at sized
    | some source =>
        have wide := sized.1
        simp only [Desktop.sourceWidth, found, Option.elim_some] at wide
        simp only [Desktop.getClientRect, found, Option.elim_some, Rect.empty, ne_eq,
          Rect.mk.injEq]
        omega
  simp only [drop, replicates, Bool.false_eq_true, if_false]
  exact matchSourceByDefault_agrees_iff
    ⟨rfl, Mirror.createMirrorNoLock_holdsNoClip _ _ _ _, covers⟩ sized user

/-- From a drop on a window that is captured, the view and its mirror agree on the clip along a
run exactly if the drop and every operation leave the clip of the view as the mirror has it. -/
theorem clip_agrees_iff (view : MiniView) (user : MiniViewUser) (desktop : Desktop)
    (target : DropTarget) (calls : List Call)
    (captured : target.preferGraphicsCapture = true ∨ target.gdiImageValid = false)
    (sized : desktop.HasSource) (resized : ∀ call ∈ calls, call.desktop.HasSource) :
    ((view.drop user desktop target).ClipAgrees ∧
        Runs.Along step (Runs.After step fun _ _ next => next.ClipAgrees)
          (view.drop user desktop target) calls) ↔
      (view.KeepsAgreementAtDrop user ∧
        Runs.Along step KeepsAgreement (view.drop user desktop target) calls) := by
  obtain ⟨agrees, captures⟩ := drop_agrees_iff view user sized captured
  rw [agrees]
  refine and_congr_right fun keeps => ?_
  have assumed : Runs.Along step (fun _ call => call.desktop.HasSource)
      (view.drop user desktop target) calls := Runs.along_of_forall fun _ => resized
  exact Runs.along_iff_of_invariant
    (fun view call captures sized => clipAgrees_iff view call captures sized)
    (fun view call captures sized keeps next stepped =>
      captures_step captures sized keeps stepped)
    (captures keeps) assumed

def plainUser : MiniViewUser := ⟨false, false, false, false⟩

def capturedDesktop : Desktop := ⟨some ⟨0, 0, 100, 100⟩, false, ⟨none, ⟨100, 100⟩⟩, 0, 0⟩

def blankView : MiniView := (init plainUser).createThis 1 0 capturedDesktop 50 50 Frame.none

theorem clip_agrees_iff_blankView :
    let dropped := blankView.drop plainUser capturedDesktop ⟨2, true, false⟩
    let calls : List Call :=
      [⟨plainUser, capturedDesktop, .setClip true ⟨10, 10, 60, 60⟩⟩,
        ⟨plainUser, capturedDesktop, .frameArrived ⟨100, 100⟩⟩,
        ⟨plainUser, capturedDesktop, .validateProperties⟩]
    (dropped.ClipAgrees ∧
        Runs.Along step (Runs.After step fun _ _ next => next.ClipAgrees) dropped calls) ↔
      (blankView.KeepsAgreementAtDrop plainUser ∧ Runs.Along step KeepsAgreement dropped calls) :=
  clip_agrees_iff blankView plainUser capturedDesktop ⟨2, true, false⟩ _ (Or.inl rfl) (by decide)
    (by decide)

theorem clip_disagrees_afterAdjust :
    ¬ ∀ (view : MiniView) (user : MiniViewUser) (desktop : Desktop) (target : DropTarget)
      (calls : List Call), view.clipped = false →
      target.preferGraphicsCapture = true ∨ target.gdiImageValid = false →
      desktop.HasSource → (∀ call ∈ calls, call.desktop.HasSource) →
        Runs.Along step (Runs.After step fun _ _ next => next.ClipAgrees)
          (view.drop user desktop target) calls := by
  intro claim
  have agrees := claim blankView plainUser capturedDesktop ⟨2, true, false⟩
    [⟨plainUser, capturedDesktop, .setClip true ⟨10, 10, 60, 60⟩⟩,
      ⟨plainUser, capturedDesktop, .adjustClipLeft 20⟩] rfl (Or.inl rfl) (by decide) (by decide)
  revert agrees
  decide

end MiniView

end LeanMiniViews
