import LeanMiniViews.MirrorFrames

/-! How long a mirror remembers the clip it was given, under everything the source window
does on its own. -/

namespace LeanMiniViews.Mirror

theorem sourceStep_frameArrived (mirror : Mirror) (contentSize : SizeInt32) :
    mirror.sourceStep (.frameArrived contentSize) =
      mirror.swapChain.map fun chain => mirror.presented contentSize chain :=
  step_frameArrived mirror contentSize

theorem handleSourceSizeChange_of_held {mirror : Mirror}
    (held : mirror.clipped = true ∨ mirror.clipPaused = true)
    (sourceWidth sourceHeight : Int) (item : CaptureItem) :
    (mirror.handleSourceSizeChange sourceWidth sourceHeight item).clipped = true ∧
      (mirror.handleSourceSizeChange sourceWidth sourceHeight item).gdiClipRegion =
        mirror.gdiClipRegion ∧
      (mirror.handleSourceSizeChange sourceWidth sourceHeight item).frameClipRegionInvalid =
        true ∧
      (mirror.handleSourceSizeChange sourceWidth sourceHeight item).swapChain.isSome = true := by
  simp only [handleSourceSizeChange]
  split
  · exact ⟨rfl, rfl, rfl, rfl⟩
  · rename_i unclipped
    have paused : mirror.clipPaused = true := held.resolve_left unclipped
    rw [if_pos paused]
    exact ⟨rfl, rfl, rfl, rfl⟩

theorem handleSourceSizeChange_of_free {mirror : Mirror} (unclipped : mirror.clipped = false)
    (running : mirror.clipPaused = false)
    (sourceWidth sourceHeight : Int) (item : CaptureItem) :
    mirror.handleSourceSizeChange sourceWidth sourceHeight item =
      mirror.createMirrorNoLock mirror.hParent mirror.hSource item := by
  simp [handleSourceSizeChange, unclipped, running]

/-! A clip that was set. -/

def HoldsClip (mirror : Mirror) (region : Rect) : Prop :=
  mirror.gdiClipRegion = region ∧ (mirror.clipped = true ∨ mirror.clipPaused = true)

instance (mirror : Mirror) (region : Rect) : Decidable (mirror.HoldsClip region) :=
  inferInstanceAs (Decidable (_ ∧ _))

/-- A frame reaches a clip that was never scaled while the source is known to have no size. -/
def LosesClip (mirror : Mirror) : SourceEvent → Prop
  | .frameArrived _ =>
      mirror.clipped = true ∧ mirror.clipPaused = false ∧ mirror.sourceHasSize = false
  | .handleSourceSizeChange _ _ _ => False

structure KeepsClip (region : Rect) (mirror : Mirror) : Prop where
  holds : mirror.HoldsClip region
  pending : mirror.sourceHasSize = false → mirror.frameClipRegionInvalid = true
  created : mirror.swapChain.isSome = true

theorem setClip_keepsClip (mirror : Mirror) (region : Rect) (sourceWidth sourceHeight : Int)
    (item : CaptureItem) :
    KeepsClip region (mirror.setClip region.left region.top region.right region.bottom
      sourceWidth sourceHeight item) :=
  ⟨⟨rfl, Or.inl rfl⟩, fun _ => rfl, rfl⟩

theorem noted_holdsClip_iff {region : Rect} {mirror : Mirror} (keeps : KeepsClip region mirror)
    (contentSize : SizeInt32) :
    (mirror.noted contentSize).HoldsClip region ↔
      ¬ mirror.LosesClip (.frameArrived contentSize) := by
  obtain ⟨⟨same, held⟩, pending, -⟩ := keeps
  rcases noted_cases mirror contentSize with
    ⟨unclipped, noted⟩ | ⟨clipped, noted, -, valid, -⟩ | ⟨clipped, sized, noted, -⟩ |
    ⟨clipped, unsized, noted⟩ <;> rw [noted]
  · simp [HoldsClip, LosesClip, unclipped, same] at held ⊢
    exact held
  · have sized : mirror.sourceHasSize = true := by
      by_contra unsized
      rw [pending (by simpa using unsized)] at valid
      cases valid
    simp [HoldsClip, LosesClip, clipped, same, sized]
  · simp [HoldsClip, LosesClip, same, sized]
  · simp [HoldsClip, LosesClip, clipped, same, unsized]

theorem holdsClip_iff {region : Rect} (mirror : Mirror) (event : SourceEvent)
    (keeps : KeepsClip region mirror) :
    Runs.After sourceStep (fun _ _ next => next.HoldsClip region) mirror event ↔
      ¬ mirror.LosesClip event := by
  cases event with
  | handleSourceSizeChange sourceWidth sourceHeight item =>
      have resumed := handleSourceSizeChange_of_held keeps.holds.2 sourceWidth sourceHeight item
      simp only [LosesClip, not_false_eq_true, iff_true]
      intro next stepped
      cases stepped
      exact ⟨resumed.2.1.trans keeps.holds.1, Or.inl resumed.1⟩
  | frameArrived contentSize =>
      obtain ⟨chain, held⟩ := Option.isSome_iff_exists.mp keeps.created
      rw [← noted_holdsClip_iff keeps contentSize, Runs.After, sourceStep_frameArrived, held]
      simp [HoldsClip, presented]

theorem keepsClip_kept {region : Rect} (mirror : Mirror) (event : SourceEvent)
    (keeps : KeepsClip region mirror) (safe : ¬ mirror.LosesClip event) :
    ∀ next ∈ mirror.sourceStep event, KeepsClip region next := by
  intro next stepped
  have holds := (holdsClip_iff mirror event keeps).mpr safe next stepped
  cases event with
  | handleSourceSizeChange sourceWidth sourceHeight item =>
      have resumed := handleSourceSizeChange_of_held keeps.holds.2 sourceWidth sourceHeight item
      cases stepped
      exact ⟨holds, fun _ => resumed.2.2.1, resumed.2.2.2⟩
  | frameArrived contentSize =>
      rw [sourceStep_frameArrived, Option.mem_def, Option.map_eq_some_iff] at stepped
      obtain ⟨chain, -, rfl⟩ := stepped
      refine ⟨holds, ?_, rfl⟩
      rcases noted_cases mirror contentSize with
        ⟨-, noted⟩ | ⟨-, noted, -⟩ | ⟨-, sized, noted, -⟩ | ⟨-, -, noted⟩ <;>
        simp only [presented, sourceHasSize, noted]
      · exact keeps.pending
      · exact keeps.pending
      · intro unsized
        exact absurd sized (by simp [sourceHasSize, unsized])
      · exact keeps.pending

/-- The clip set on a mirror survives a run of size changes and frames exactly if no frame of
the run loses it. -/
theorem setClip_held_iff (mirror : Mirror) (region : Rect) (sourceWidth sourceHeight : Int)
    (item : CaptureItem) (events : List SourceEvent) :
    (mirror.setClip region.left region.top region.right region.bottom
        sourceWidth sourceHeight item).HoldsClip region ∧
      (Runs.Along sourceStep
          (Runs.After sourceStep fun _ _ next => next.HoldsClip region)
          (mirror.setClip region.left region.top region.right region.bottom
            sourceWidth sourceHeight item) events ↔
        Runs.Along sourceStep (fun mirror event => ¬ mirror.LosesClip event)
          (mirror.setClip region.left region.top region.right region.bottom
            sourceWidth sourceHeight item) events) := by
  have keeps := setClip_keepsClip mirror region sourceWidth sourceHeight item
  refine ⟨keeps.holds, ?_⟩
  exact Runs.along_iff_of_exact holdsClip_iff keepsClip_kept keeps

theorem setClip_lost_minimised :
    ¬ ∀ (mirror : Mirror) (region : Rect) (sourceWidth sourceHeight : Int) (item : CaptureItem)
      (events : List SourceEvent),
      Runs.Along sourceStep (Runs.After sourceStep fun _ _ next => next.HoldsClip region)
        (mirror.setClip region.left region.top region.right region.bottom
          sourceWidth sourceHeight item) events := by
  intro claim
  have held := claim (init.createMirror 1 2 ⟨none, ⟨100, 80⟩⟩) ⟨10, 10, 60, 50⟩ 100 80
    ⟨none, ⟨100, 80⟩⟩
    [.handleSourceSizeChange 0 0 ⟨none, ⟨100, 80⟩⟩, .frameArrived ⟨100, 80⟩]
  revert held
  decide

/-! A clip that was cleared. -/

def SourceEvent.IsFrame : SourceEvent → Prop
  | .frameArrived _ => True
  | .handleSourceSizeChange _ _ _ => False

structure Unclipped (mirror : Mirror) : Prop where
  unclipped : mirror.clipped = false
  created : mirror.swapChain.isSome = true

theorem noted_of_unclipped {mirror : Mirror} (unclipped : mirror.clipped = false)
    (contentSize : SizeInt32) :
    mirror.noted contentSize = { mirror with size := contentSize } := by
  rcases noted_cases mirror contentSize with
    ⟨-, same⟩ | ⟨clipped, -⟩ | ⟨clipped, -⟩ | ⟨clipped, -⟩
  · exact same
  all_goals simp [unclipped] at clipped

theorem Unclipped.presented {mirror : Mirror} (free : mirror.Unclipped)
    (contentSize : SizeInt32) (chain : SwapChain) :
    (mirror.presented contentSize chain).Unclipped ∧
      (mirror.presented contentSize chain).clipPaused = mirror.clipPaused := by
  have same := noted_of_unclipped free.unclipped contentSize
  refine ⟨⟨?_, rfl⟩, ?_⟩
  · show (mirror.noted contentSize).clipped = false
    rw [same]
    exact free.unclipped
  · show (mirror.noted contentSize).clipPaused = mirror.clipPaused
    rw [same]

/-- Only a size change can turn clipping back on, and it does so exactly if the clip is still
marked as paused. -/
theorem unclipped_final_iff {mirror : Mirror} (free : mirror.Unclipped)
    (events : List SourceEvent) :
    Runs.Along sourceStep (Runs.After sourceStep fun _ _ next => next.clipped = false)
        mirror events ↔
      mirror.clipPaused = false ∨ ∀ event ∈ events, event.IsFrame := by
  induction events generalizing mirror with
  | nil => simp
  | cons event rest ih =>
      rw [Runs.along_cons]
      cases event with
      | frameArrived contentSize =>
          obtain ⟨chain, held⟩ := Option.isSome_iff_exists.mp free.created
          obtain ⟨next, paused⟩ := free.presented contentSize chain
          simp only [Runs.After, sourceStep_frameArrived, held, Option.map_some, Option.mem_def,
            Option.some.injEq, forall_eq']
          rw [ih next, paused, next.unclipped]
          simp [SourceEvent.IsFrame]
      | handleSourceSizeChange sourceWidth sourceHeight item =>
          simp only [Runs.After, sourceStep, SourceEvent.toEvent, step, Option.mem_def,
            Option.some.injEq, forall_eq']
          cases paused : mirror.clipPaused with
          | true =>
              have resumed := handleSourceSizeChange_of_held (Or.inr paused)
                sourceWidth sourceHeight item
              simp [resumed.1, SourceEvent.IsFrame]
          | false =>
              rw [handleSourceSizeChange_of_free free.unclipped paused]
              have next : (mirror.createMirrorNoLock mirror.hParent mirror.hSource
                  item).Unclipped := ⟨by simp, by simp⟩
              rw [ih next]
              simp [paused]

/-- After `clearClip` or a public `createMirror`, no size change and no frame turns clipping
back on, exactly if the clip was not paused when it was cleared or no size change follows. -/
theorem cleared_unclipped_iff (mirror : Mirror) (hParent sourceWindow : HWND)
    (item : CaptureItem) (format : PixelFormat) (count : Nat) (events : List SourceEvent) :
    (Runs.Along sourceStep (Runs.After sourceStep fun _ _ next => next.clipped = false)
        (mirror.clearClip item) events ↔
      mirror.clipPaused = false ∨ ∀ event ∈ events, event.IsFrame) ∧
    (Runs.Along sourceStep (Runs.After sourceStep fun _ _ next => next.clipped = false)
        (mirror.createMirror hParent sourceWindow item format count) events ↔
      mirror.clipPaused = false ∨ ∀ event ∈ events, event.IsFrame) := by
  have cleared : (mirror.clearClip item).Unclipped :=
    ⟨createMirrorNoLock_clipped _ _ _ _ _ _, rfl⟩
  have created : (mirror.createMirror hParent sourceWindow item format count).Unclipped :=
    ⟨createMirrorNoLock_clipped _ _ _ _ _ _, rfl⟩
  constructor
  · rw [unclipped_final_iff cleared, clearClip, createMirrorNoLock_clipPaused]
    rfl
  · rw [unclipped_final_iff created, createMirror, createMirrorNoLock_clipPaused]

/-- A clip that one frame scaled is still marked as paused after it is cleared, and the next
size change turns clipping on again. -/
theorem cleared_clip_returns :
    ¬ ∀ (history : List Event) (mirror : Mirror) (item : CaptureItem)
      (events : List SourceEvent), Runs.final step init history = some mirror →
      Runs.Along sourceStep (Runs.After sourceStep fun _ _ next => next.clipped = false)
        (mirror.clearClip item) events := by
  intro claim
  have unclipped := claim
    [.createMirror 1 2 ⟨none, ⟨100, 80⟩⟩, .setClip ⟨10, 10, 60, 50⟩ 100 80 ⟨none, ⟨100, 80⟩⟩,
      .frameArrived ⟨100, 80⟩] _ ⟨none, ⟨100, 80⟩⟩
    [.handleSourceSizeChange 120 90 ⟨none, ⟨120, 90⟩⟩] rfl
  revert unclipped
  decide

end LeanMiniViews.Mirror
