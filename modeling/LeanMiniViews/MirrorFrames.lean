import LeanMiniViews.Runs
import LeanMiniViews.MirrorCore

/-! What one frame does to a mirror, as one equation, and what the frames of a run
copy. -/

namespace LeanMiniViews.Mirror

@[simp] theorem createMirrorNoLock_clipped (mirror : Mirror) (hParent sourceWindow : HWND)
    (item : CaptureItem) (format : PixelFormat) (count : Nat) :
    (mirror.createMirrorNoLock hParent sourceWindow item format count).clipped = false := by
  simp only [createMirrorNoLock]
  split <;> rfl

@[simp] theorem createMirrorNoLock_clipPaused (mirror : Mirror) (hParent sourceWindow : HWND)
    (item : CaptureItem) (format : PixelFormat) (count : Nat) :
    (mirror.createMirrorNoLock hParent sourceWindow item format count).clipPaused =
      mirror.clipPaused := by
  simp only [createMirrorNoLock]
  split <;> rfl

@[simp] theorem createMirrorNoLock_gdiClipRegion (mirror : Mirror) (hParent sourceWindow : HWND)
    (item : CaptureItem) (format : PixelFormat) (count : Nat) :
    (mirror.createMirrorNoLock hParent sourceWindow item format count).gdiClipRegion =
      Rect.empty := by
  simp only [createMirrorNoLock]
  split <;> rfl

@[simp] theorem createMirrorNoLock_frameClipRegionInvalid (mirror : Mirror)
    (hParent sourceWindow : HWND) (item : CaptureItem) (format : PixelFormat) (count : Nat) :
    (mirror.createMirrorNoLock hParent sourceWindow item format count).frameClipRegionInvalid =
      true := by
  simp only [createMirrorNoLock]
  split <;> rfl

@[simp] theorem createMirrorNoLock_size (mirror : Mirror) (hParent sourceWindow : HWND)
    (item : CaptureItem) (format : PixelFormat) (count : Nat) :
    (mirror.createMirrorNoLock hParent sourceWindow item format count).size = item.size := rfl

@[simp] theorem createMirrorNoLock_swapChain (mirror : Mirror) (hParent sourceWindow : HWND)
    (item : CaptureItem) (format : PixelFormat) (count : Nat) :
    (mirror.createMirrorNoLock hParent sourceWindow item format count).swapChain =
      some ⟨count, toUInt item.size.width, toUInt item.size.height, format⟩ := rfl

/-- What `updateClip` can do: keep a usable region, scale the region anew, or give up on a
source without a size. -/
theorem updateClip_cases (mirror : Mirror) (sizeChanged : Bool) :
    (mirror.updateClip sizeChanged = mirror ∧ sizeChanged = false ∧
      mirror.frameClipRegionInvalid = false ∧
      mirror.frameClipRegion.unusable mirror.size = false) ∨
    (mirror.updateClip sizeChanged = { mirror with
        frameClipRegion := mirror.scaledRegion
        frameClipRegionInvalid := mirror.scaledRegion.unusable mirror.size
        clipped := !mirror.scaledRegion.unusable mirror.size
        clipPaused := true } ∧ mirror.sourceHasSize = true ∧
      (sizeChanged = true ∨ mirror.frameClipRegionInvalid = true ∨
        mirror.frameClipRegion.unusable mirror.size = true)) ∨
    (mirror.updateClip sizeChanged = { mirror with clipped := false } ∧
      mirror.sourceHasSize = false) := by
  unfold updateClip
  split
  · rename_i outdated
    simp only [Bool.or_eq_true] at outdated
    split
    · rename_i sized
      exact Or.inr (Or.inl ⟨rfl, sized, or_assoc.mp outdated⟩)
    · rename_i unsized
      exact Or.inr (Or.inr ⟨rfl, by simpa using unsized⟩)
  · rename_i current
    simp only [Bool.or_eq_true, not_or, Bool.not_eq_true] at current
    exact Or.inl ⟨rfl, current.1.1, current.1.2, current.2⟩

def noted (mirror : Mirror) (contentSize : SizeInt32) : Mirror :=
  let sized := { mirror with size := contentSize }
  if mirror.clipped then sized.updateClip (decide (contentSize ≠ mirror.size)) else sized

def scaledTo (mirror : Mirror) (contentSize : SizeInt32) : Box :=
  { mirror with size := contentSize }.scaledRegion

theorem noted_cases (mirror : Mirror) (contentSize : SizeInt32) :
    (mirror.clipped = false ∧
      mirror.noted contentSize = { mirror with size := contentSize }) ∨
    (mirror.clipped = true ∧ mirror.noted contentSize = { mirror with size := contentSize } ∧
      contentSize = mirror.size ∧ mirror.frameClipRegionInvalid = false ∧
      mirror.frameClipRegion.unusable contentSize = false) ∨
    (mirror.clipped = true ∧ mirror.sourceHasSize = true ∧
      mirror.noted contentSize = { mirror with
        size := contentSize
        frameClipRegion := mirror.scaledTo contentSize
        frameClipRegionInvalid := (mirror.scaledTo contentSize).unusable contentSize
        clipped := !(mirror.scaledTo contentSize).unusable contentSize
        clipPaused := true } ∧
      (contentSize ≠ mirror.size ∨ mirror.frameClipRegionInvalid = true ∨
        mirror.frameClipRegion.unusable contentSize = true)) ∨
    (mirror.clipped = true ∧ mirror.sourceHasSize = false ∧
      mirror.noted contentSize = { mirror with size := contentSize, clipped := false }) := by
  by_cases clipped : mirror.clipped = true
  · have notedEq : mirror.noted contentSize = { mirror with size := contentSize }.updateClip
        (decide (contentSize ≠ mirror.size)) := by
      unfold noted
      exact if_pos clipped
    rw [notedEq]
    rcases updateClip_cases { mirror with size := contentSize }
      (decide (contentSize ≠ mirror.size)) with kept | scaled | unsized
    · obtain ⟨same, unchanged, valid, usable⟩ := kept
      have sameSize : contentSize = mirror.size := by simpa using unchanged
      exact Or.inr (Or.inl ⟨clipped, same, sameSize, valid, usable⟩)
    · obtain ⟨same, sized, outdated⟩ := scaled
      exact Or.inr (Or.inr (Or.inl ⟨clipped, sized, same, by simpa using outdated⟩))
    · exact Or.inr (Or.inr (Or.inr ⟨clipped, unsized.2, unsized.1⟩))
  · refine Or.inl ⟨by simpa using clipped, ?_⟩
    unfold noted
    exact if_neg clipped

def wantedChain (mirror : Mirror) : SwapChain :=
  if mirror.clipped then
    ⟨mirror.bufferCount, mirror.frameClipRegion.width, mirror.frameClipRegion.height,
      mirror.pixelFormat⟩
  else
    ⟨mirror.bufferCount, toUInt mirror.size.width, toUInt mirror.size.height, mirror.pixelFormat⟩

/-- The buffers only follow a frame whose size is new. -/
def presented (mirror : Mirror) (contentSize : SizeInt32) (chain : SwapChain) : Mirror :=
  { mirror.noted contentSize with
    swapChain := some
      (if contentSize = mirror.size then chain else (mirror.noted contentSize).wantedChain) }

theorem noted_swapChain (mirror : Mirror) (contentSize : SizeInt32) :
    (mirror.noted contentSize).swapChain = mirror.swapChain := by
  rcases noted_cases mirror contentSize with
    ⟨-, same⟩ | ⟨-, same, -⟩ | ⟨-, -, same, -⟩ | ⟨-, -, same⟩ <;> rw [same]

theorem resizeBuffers_wanted (mirror : Mirror) :
    (if mirror.clipped then
      mirror.resizeBuffers mirror.frameClipRegion.width mirror.frameClipRegion.height
    else mirror.resizeBuffers (toUInt mirror.size.width) (toUInt mirror.size.height)) =
      mirror.swapChain.map fun _ => { mirror with swapChain := some mirror.wantedChain } := by
  unfold wantedChain resizeBuffers
  split <;> rfl

theorem updateSize_eq (mirror : Mirror) (contentSize : SizeInt32) :
    mirror.updateSize contentSize = if contentSize = mirror.size then
        some (mirror.noted contentSize)
      else mirror.swapChain.map fun chain => mirror.presented contentSize chain := by
  by_cases same : contentSize = mirror.size
  · subst same
    simp only [updateSize, noted, ne_eq, not_true, or_self, if_false, if_true, decide_false]
    split <;> rfl
  · have changed : contentSize.width ≠ mirror.size.width ∨
        contentSize.height ≠ mirror.size.height := by
      by_contra equal
      simp only [ne_eq, not_or, not_not] at equal
      exact same (by cases contentSize; cases size : mirror.size; simp_all)
    have notedEq : (if mirror.clipped then { mirror with size := contentSize }.updateClip true
        else { mirror with size := contentSize }) = mirror.noted contentSize := by
      simp [noted, same]
    rw [updateSize, if_pos changed, if_neg same]
    unfold refreshSwapChain presented
    simp only [same, if_false]
    rw [notedEq, resizeBuffers_wanted, noted_swapChain]

/-- A frame needs a swap chain. It notes the size, rescales the region of a clipped mirror if
that is due, and copies by the `clipped` flag it ends up with. -/
theorem frameArrived_eq (mirror : Mirror) (contentSize : SizeInt32) :
    mirror.frameArrived contentSize = mirror.swapChain.map fun chain =>
      (mirror.presented contentSize chain,
        if (mirror.noted contentSize).clipped then
          Copy.subresourceRegion (mirror.noted contentSize).frameClipRegion
        else Copy.resource) := by
  rw [frameArrived, updateSize_eq]
  by_cases same : contentSize = mirror.size
  · rw [if_pos same, Option.bind_some, copyFrame, noted_swapChain]
    cases held : mirror.swapChain with
    | none => rfl
    | some chain =>
        have kept := noted_swapChain mirror contentSize
        rw [held] at kept
        have presentedEq : mirror.presented contentSize chain = mirror.noted contentSize := by
          unfold presented
          rw [if_pos same, ← kept]
        simp only [Option.map_some, presentedEq]
  · rw [if_neg same]
    cases mirror.swapChain <;> rfl

theorem step_frameArrived (mirror : Mirror) (contentSize : SizeInt32) :
    mirror.step (.frameArrived contentSize) =
      mirror.swapChain.map fun chain => mirror.presented contentSize chain := by
  rw [step, frameArrived_eq, Option.map_map]
  rfl

/-! The clipped copies of a run. -/

/-- The region a clip asks for has no negative edge, and the products that scale the
remembered region to a frame fit in 32 bits. -/
def InRange (mirror : Mirror) : Event → Prop
  | .setClip region _ _ _ =>
      0 ≤ region.left ∧ 0 ≤ region.top ∧ 0 ≤ region.right ∧ 0 ≤ region.bottom
  | .frameArrived contentSize =>
      (0 < contentSize.width ∧ 0 < contentSize.height) ∧
      contentSize.width * mirror.gdiClipRegion.left < 2147483648 ∧
      contentSize.height * mirror.gdiClipRegion.top < 2147483648 ∧
      contentSize.width * mirror.gdiClipRegion.right < 2147483648 ∧
      contentSize.height * mirror.gdiClipRegion.bottom < 2147483648
  | _ => True

instance (mirror : Mirror) : ∀ event, Decidable (mirror.InRange event)
  | .setClip _ _ _ _ | .frameArrived _ => by unfold InRange; infer_instance
  | .createMirror _ _ _ | .handleSourceSizeChange _ _ _ | .clearClip _ | .reset
  | .sourceClosed => isTrue trivial

def CopiesInside (mirror : Mirror) : Event → Prop
  | .frameArrived contentSize =>
      ∀ copied ∈ mirror.frameArrived contentSize, ∀ box, copied.2 = .subresourceRegion box →
        (0 ≤ box.left ∧ box.left < box.right ∧ box.right ≤ contentSize.width) ∧
        (0 ≤ box.top ∧ box.top < box.bottom ∧ box.bottom ≤ contentSize.height)
  | _ => True

def SmallRegions (mirror : Mirror) : Prop :=
  (0 ≤ mirror.gdiClipRegion.left ∧ 0 ≤ mirror.gdiClipRegion.top ∧
    0 ≤ mirror.gdiClipRegion.right ∧ 0 ≤ mirror.gdiClipRegion.bottom) ∧
  (0 ≤ mirror.frameClipRegion.left ∧ 0 ≤ mirror.frameClipRegion.top) ∧
  (0 ≤ mirror.frameClipRegion.right ∧ mirror.frameClipRegion.right < 2147483648) ∧
  (0 ≤ mirror.frameClipRegion.bottom ∧ mirror.frameClipRegion.bottom < 2147483648)

theorem scaledEdge_eq {side edge source : Int} (sideNonneg : 0 ≤ side) (edgeNonneg : 0 ≤ edge)
    (fits : side * edge < 2147483648) (sourcePositive : 0 < source) :
    toUInt ((mulLong side edge).tdiv source) = side * edge / source := by
  have product : 0 ≤ side * edge := Int.mul_nonneg sideNonneg edgeNonneg
  have quotient : 0 ≤ (side * edge) / source := Int.ediv_nonneg product sourcePositive.le
  have bounded : (side * edge) / source ≤ side * edge := Int.ediv_le_self _ product
  rw [mulLong, toLong_of_fits product fits, Int.tdiv_eq_ediv_of_nonneg product,
    toUInt_of_fits quotient (by omega)]

theorem scaled_edge {side edge source : Int} (sidePositive : 0 < side) (edgeNonneg : 0 ≤ edge)
    (fits : side * edge < 2147483648) (sourcePositive : 0 < source) :
    0 ≤ toUInt ((mulLong side edge).tdiv source) ∧
      toUInt ((mulLong side edge).tdiv source) < 2147483648 := by
  have product : 0 ≤ side * edge := Int.mul_nonneg sidePositive.le edgeNonneg
  have bounded : (side * edge) / source ≤ side * edge := Int.ediv_le_self _ product
  rw [scaledEdge_eq sidePositive.le edgeNonneg fits sourcePositive]
  exact ⟨Int.ediv_nonneg product sourcePositive.le, by omega⟩

theorem noted_smallRegions {mirror : Mirror} {contentSize : SizeInt32}
    (small : mirror.SmallRegions) (fits : mirror.InRange (.frameArrived contentSize)) :
    (mirror.noted contentSize).SmallRegions := by
  rcases noted_cases mirror contentSize with
    ⟨-, same⟩ | ⟨-, same, -⟩ | ⟨-, sized, same, -⟩ | ⟨-, -, same⟩ <;> rw [same]
  · exact small
  · exact small
  · simp only [sourceHasSize, Bool.and_eq_true, decide_eq_true_eq] at sized
    obtain ⟨⟨width, height⟩, left, top, right, bottom⟩ := fits
    obtain ⟨nonneg, -⟩ := small
    exact ⟨nonneg,
      ⟨(scaled_edge width nonneg.1 left sized.1).1,
        (scaled_edge height nonneg.2.1 top sized.2).1⟩,
      scaled_edge width nonneg.2.2.1 right sized.1,
      scaled_edge height nonneg.2.2.2 bottom sized.2⟩
  · exact small

theorem noted_usable {mirror : Mirror} {contentSize : SizeInt32}
    (clipped : (mirror.noted contentSize).clipped = true) :
    (mirror.noted contentSize).frameClipRegion.unusable contentSize = false := by
  rcases noted_cases mirror contentSize with
    ⟨unclipped, same⟩ | ⟨-, same, -, -, usable⟩ | ⟨-, -, same, -⟩ | ⟨-, -, same⟩
  · rw [same, unclipped] at clipped
    cases clipped
  · rw [same]
    exact usable
  · rw [same] at clipped ⊢
    simpa using clipped
  · rw [same] at clipped
    cases clipped

theorem smallRegions_kept (mirror : Mirror) (event : Event) (small : mirror.SmallRegions)
    (inRange : mirror.InRange event) :
    ∀ next ∈ mirror.step event, next.SmallRegions := by
  intro next stepped
  have cleared (hParent sourceWindow : HWND) (item : CaptureItem) (format : PixelFormat)
      (count : Nat) (start : Mirror) :
      (start.createMirrorNoLock hParent sourceWindow item format count).SmallRegions := by
    simp only [createMirrorNoLock]
    split <;> simp [SmallRegions, clearClipNoLock, resetNoLock, Box.empty, Rect.empty]
  have reset (start : Mirror) : start.resetNoLock.SmallRegions := by
    simp [SmallRegions, clearClipNoLock, resetNoLock, Box.empty, Rect.empty]
  cases event with
  | createMirror hParent sourceWindow item =>
      cases stepped
      exact cleared _ _ _ _ _ _
  | handleSourceSizeChange sourceWidth sourceHeight item =>
      cases stepped
      simp only [handleSourceSizeChange]
      split
      · exact ⟨small.1, by simp [setClipNoLock, Box.empty]⟩
      · split
        · exact ⟨small.1, by simp [setClipNoLock, Box.empty]⟩
        · exact cleared _ _ _ _ _ _
  | setClip region sourceWidth sourceHeight item =>
      cases stepped
      exact ⟨inRange, by simp [setClip, setClipNoLock, Box.empty]⟩
  | clearClip item =>
      cases stepped
      exact cleared _ _ _ _ _ _
  | reset =>
      cases stepped
      exact reset mirror
  | sourceClosed =>
      cases stepped
      exact reset mirror
  | frameArrived contentSize =>
      rw [step_frameArrived, Option.mem_def, Option.map_eq_some_iff] at stepped
      obtain ⟨chain, -, rfl⟩ := stepped
      exact noted_smallRegions small inRange

theorem copiesInside_of_smallRegions (mirror : Mirror) (event : Event)
    (small : mirror.SmallRegions) (inRange : mirror.InRange event) :
    mirror.CopiesInside event := by
  cases event with
  | frameArrived contentSize =>
      intro copied arrived box taken
      rw [frameArrived_eq, Option.mem_def, Option.map_eq_some_iff] at arrived
      obtain ⟨chain, -, rfl⟩ := arrived
      dsimp only at taken
      split at taken
      · rename_i clipped
        cases taken
        have usable := noted_usable clipped
        obtain ⟨-, ⟨left, top⟩, right, bottom⟩ := noted_smallRegions small inRange
        simp only [Box.unusable, Bool.or_eq_false_iff, decide_eq_false_iff_not] at usable
        rw [toLong_of_fits right.1 right.2, toLong_of_fits bottom.1 bottom.2] at usable
        omega
      · cases taken
  | _ => trivial

/-- Every clipped copy of a run stays inside the frame it is taken from, however clips, resets,
source sizes and frames are interleaved. -/
theorem clippedCopies_inside (events : List Event)
    (inRange : Runs.Along step InRange init events) :
    Runs.Along step CopiesInside init events :=
  Runs.along_of_invariant smallRegions_kept copiesInside_of_smallRegions
    (by simp [SmallRegions, init, Rect.empty]) inRange

theorem clippedCopies_inside_halfFrame :
    Runs.Along step CopiesInside init
      [.createMirror 1 2 ⟨none, ⟨100, 80⟩⟩, .setClip ⟨10, 10, 60, 50⟩ 100 80 ⟨none, ⟨100, 80⟩⟩,
        .frameArrived ⟨100, 80⟩, .handleSourceSizeChange 0 0 ⟨none, ⟨100, 80⟩⟩,
        .frameArrived ⟨200, 160⟩] :=
  clippedCopies_inside _ (by decide)

/-! The buffers of a run. -/

def PositiveFrame : Event → Prop
  | .frameArrived contentSize =>
      (0 < contentSize.width ∧ contentSize.width < 2147483648) ∧
      (0 < contentSize.height ∧ contentSize.height < 2147483648)
  | _ => True

def BuffersMatch (mirror : Mirror) : Event → Prop
  | .frameArrived contentSize =>
      ∀ copied ∈ mirror.frameArrived contentSize, ∀ chain ∈ copied.1.swapChain,
        if copied.1.clipped then
          chain.width = copied.1.frameClipRegion.right - copied.1.frameClipRegion.left ∧
          chain.height = copied.1.frameClipRegion.bottom - copied.1.frameClipRegion.top
        else
          chain.width = contentSize.width ∧ chain.height = contentSize.height
  | _ => True

instance (mirror : Mirror) : ∀ event, Decidable (mirror.BuffersMatch event)
  | .frameArrived _ => by unfold BuffersMatch; infer_instance
  | .createMirror _ _ _ | .handleSourceSizeChange _ _ _ | .setClip _ _ _ _ | .clearClip _
  | .reset | .sourceClosed => isTrue trivial

/-- The frame has the size already noted, and it is the one on which the pending clip gets
its box, a box that is usable and not as large as the frame. -/
def SkipsResize (mirror : Mirror) : Event → Prop
  | .frameArrived contentSize =>
      contentSize = mirror.size ∧ mirror.clipped = true ∧
      mirror.frameClipRegionInvalid = true ∧ mirror.sourceHasSize = true ∧
      (mirror.scaledTo contentSize).unusable contentSize = false ∧
      ¬((mirror.scaledTo contentSize).right - (mirror.scaledTo contentSize).left =
          contentSize.width ∧
        (mirror.scaledTo contentSize).bottom - (mirror.scaledTo contentSize).top =
          contentSize.height)
  | _ => False

structure BuffersFollow (mirror : Mirror) : Prop where
  valid : mirror.frameClipRegionInvalid = false → mirror.clipped = true ∧
    mirror.sourceHasSize = true ∧ mirror.frameClipRegion.unusable mirror.size = false
  created : mirror.clipped = true → mirror.swapChain.isSome = true
  whole : mirror.frameClipRegionInvalid = true → ∀ chain ∈ mirror.swapChain,
    chain.width = toUInt mirror.size.width ∧ chain.height = toUInt mirror.size.height
  boxed : mirror.frameClipRegionInvalid = false → ∀ chain ∈ mirror.swapChain,
    chain.width = mirror.frameClipRegion.right - mirror.frameClipRegion.left ∧
    chain.height = mirror.frameClipRegion.bottom - mirror.frameClipRegion.top

theorem BuffersFollow.of_fresh {mirror : Mirror}
    (invalid : mirror.frameClipRegionInvalid = true)
    (created : mirror.clipped = true → mirror.swapChain.isSome = true)
    (whole : ∀ chain ∈ mirror.swapChain,
      chain.width = toUInt mirror.size.width ∧ chain.height = toUInt mirror.size.height) :
    mirror.BuffersFollow where
  valid := by simp [invalid]
  created := created
  whole _ := whole
  boxed := by simp [invalid]

theorem init_buffersFollow : init.BuffersFollow :=
  .of_fresh rfl (by simp [init]) (by simp [init])

theorem createMirrorNoLock_buffersFollow (mirror : Mirror) (hParent sourceWindow : HWND)
    (item : CaptureItem) (format : PixelFormat) (count : Nat) :
    (mirror.createMirrorNoLock hParent sourceWindow item format count).BuffersFollow :=
  .of_fresh (by simp) (by simp) (by simp)

theorem setClipNoLock_buffersFollow (mirror : Mirror)
    (left top right bottom sourceWidth sourceHeight : Int) (item : CaptureItem) :
    (mirror.setClipNoLock left top right bottom sourceWidth sourceHeight item).BuffersFollow :=
  .of_fresh rfl (by simp [setClipNoLock]) (by simp [setClipNoLock])

theorem resetNoLock_buffersFollow (mirror : Mirror) : mirror.resetNoLock.BuffersFollow :=
  .of_fresh rfl (by simp [resetNoLock, clearClipNoLock]) (by simp [resetNoLock])

theorem scaledTo_extent (mirror : Mirror) (contentSize : SizeInt32)
    (usable : (mirror.scaledTo contentSize).unusable contentSize = false) :
    (mirror.scaledTo contentSize).width =
        (mirror.scaledTo contentSize).right - (mirror.scaledTo contentSize).left ∧
      (mirror.scaledTo contentSize).height =
        (mirror.scaledTo contentSize).bottom - (mirror.scaledTo contentSize).top := by
  simp only [Box.unusable, Bool.or_eq_false_iff, decide_eq_false_iff_not] at usable
  have unsigned (value : Int) : 0 ≤ toUInt value ∧ toUInt value < 4294967296 := by
    unfold toUInt
    omega
  have left : 0 ≤ (mirror.scaledTo contentSize).left := (unsigned _).1
  have top : 0 ≤ (mirror.scaledTo contentSize).top := (unsigned _).1
  have right : (mirror.scaledTo contentSize).right < 4294967296 := (unsigned _).2
  have bottom : (mirror.scaledTo contentSize).bottom < 4294967296 := (unsigned _).2
  exact ⟨toUInt_of_fits (by omega) (by omega), toUInt_of_fits (by omega) (by omega)⟩

theorem BuffersFollow.pending {mirror : Mirror} (follow : mirror.BuffersFollow)
    (outdated : mirror.frameClipRegionInvalid = true ∨
      mirror.frameClipRegion.unusable mirror.size = true) :
    mirror.frameClipRegionInvalid = true := by
  by_contra current
  have usable := (follow.valid (by simpa using current)).2.2
  rw [usable] at outdated
  simp only [Bool.false_eq_true, or_false] at outdated
  exact current outdated

theorem BuffersFollow.invalid {mirror : Mirror} (follow : mirror.BuffersFollow)
    (idle : mirror.clipped = false ∨ mirror.sourceHasSize = false) :
    mirror.frameClipRegionInvalid = true := by
  by_contra current
  obtain ⟨clipped, sized, -⟩ := follow.valid (by simpa using current)
  rcases idle with unclipped | unsized
  · simp [clipped] at unclipped
  · simp [sized] at unsized

theorem noted_size (mirror : Mirror) (contentSize : SizeInt32) :
    (mirror.noted contentSize).size = contentSize := by
  rcases noted_cases mirror contentSize with
    ⟨-, same⟩ | ⟨-, same, -⟩ | ⟨-, -, same, -⟩ | ⟨-, -, same⟩ <;> rw [same]

theorem BuffersFollow.noted_settled {mirror : Mirror} (follow : mirror.BuffersFollow)
    (contentSize : SizeInt32) :
    (mirror.noted contentSize).clipped = !(mirror.noted contentSize).frameClipRegionInvalid := by
  rcases noted_cases mirror contentSize with
    ⟨unclipped, same⟩ | ⟨clipped, same, -, valid, -⟩ | ⟨-, -, same, -⟩ | ⟨-, unsized, same⟩ <;>
    rw [same]
  · simp [unclipped, follow.invalid (Or.inl unclipped)]
  · simp [clipped, valid]
  · simp [follow.invalid (Or.inr unsized)]

theorem BuffersFollow.presented_whole {mirror : Mirror} {contentSize : SizeInt32}
    {chain : SwapChain} (follow : mirror.BuffersFollow) (held : mirror.swapChain = some chain)
    (pending : contentSize = mirror.size → mirror.frameClipRegionInvalid = true)
    (invalid : (mirror.noted contentSize).frameClipRegionInvalid = true) :
    (mirror.presented contentSize chain).BuffersFollow := by
  have unclipped : (mirror.noted contentSize).clipped = false := by
    simpa [invalid] using follow.noted_settled contentSize
  refine .of_fresh invalid (fun _ => rfl) ?_
  intro stored isStored
  cases isStored
  split
  · rename_i sameSize
    simp only [presented, noted_size, sameSize]
    exact follow.whole (pending sameSize) chain held
  · simp [presented, wantedChain, unclipped]

theorem presented_buffersFollow {mirror : Mirror} {contentSize : SizeInt32} {chain : SwapChain}
    (follow : mirror.BuffersFollow) (held : mirror.swapChain = some chain)
    (positive : PositiveFrame (.frameArrived contentSize))
    (resizes : ¬ mirror.SkipsResize (.frameArrived contentSize)) :
    (mirror.presented contentSize chain).BuffersFollow := by
  obtain ⟨⟨widthPositive, widthFits⟩, heightPositive, heightFits⟩ := positive
  have width := toUInt_of_fits widthPositive.le (by omega)
  have height := toUInt_of_fits heightPositive.le (by omega)
  rcases noted_cases mirror contentSize with
    ⟨unclipped, same⟩ | ⟨clipped, same, sameSize, valid, usable⟩ |
    ⟨clipped, sized, same, outdated⟩ | ⟨clipped, unsized, same⟩
  · have invalid := follow.invalid (Or.inl unclipped)
    apply follow.presented_whole held (fun _ => invalid)
    rw [same]
    exact invalid
  · have kept : mirror.presented contentSize chain = mirror := by
      simp only [presented, same, if_pos sameSize]
      subst sameSize
      rw [← held]
    rw [kept]
    exact follow
  · have pending : contentSize = mirror.size → mirror.frameClipRegionInvalid = true := by
      intro sameSize
      subst sameSize
      exact follow.pending (by simpa using outdated)
    by_cases usable : (mirror.scaledTo contentSize).unusable contentSize = true
    · apply follow.presented_whole held pending
      rw [same]
      exact usable
    · simp only [Bool.not_eq_true] at usable
      have extent := scaledTo_extent mirror contentSize usable
      constructor <;> simp only [presented, same, usable]
      · exact fun _ => ⟨rfl, sized, trivial⟩
      · simp
      · simp
      · intro _
        split
        · rename_i sameSize
          have whole : chain.width = toUInt mirror.size.width ∧
              chain.height = toUInt mirror.size.height :=
            follow.whole (pending sameSize) chain held
          have matching : (mirror.scaledTo contentSize).right -
                (mirror.scaledTo contentSize).left = contentSize.width ∧
              (mirror.scaledTo contentSize).bottom -
                (mirror.scaledTo contentSize).top = contentSize.height := by
            by_contra different
            exact resizes ⟨sameSize, clipped, pending sameSize, sized, usable, different⟩
          rw [← sameSize, width, height] at whole
          simpa [matching.1, matching.2] using whole
        · simpa [wantedChain, Box.width, Box.height] using extent
  · have invalid := follow.invalid (Or.inr unsized)
    apply follow.presented_whole held (fun _ => invalid)
    rw [same]
    exact invalid

theorem buffersMatch_iff (mirror : Mirror) (event : Event) (follow : mirror.BuffersFollow)
    (positive : PositiveFrame event) : mirror.BuffersMatch event ↔ ¬ mirror.SkipsResize event := by
  cases event with
  | frameArrived contentSize =>
      obtain ⟨⟨widthPositive, widthFits⟩, heightPositive, heightFits⟩ := positive
      have width := toUInt_of_fits widthPositive.le (by omega)
      have height := toUInt_of_fits heightPositive.le (by omega)
      constructor
      · rintro matching ⟨sameSize, clipped, invalid, sized, usable, different⟩
        obtain ⟨chain, held⟩ := Option.isSome_iff_exists.mp (follow.created clipped)
        have scaled : mirror.noted contentSize = { mirror with
            size := contentSize
            frameClipRegion := mirror.scaledTo contentSize
            frameClipRegionInvalid := false
            clipped := true
            clipPaused := true } := by
          rcases noted_cases mirror contentSize with
            ⟨unclipped, -⟩ | ⟨-, -, -, valid, -⟩ | ⟨-, -, same, -⟩ | ⟨-, unsized, -⟩
          · simp [clipped] at unclipped
          · simp [invalid] at valid
          · simpa [usable] using same
          · simp [sized] at unsized
        have whole : chain.width = toUInt mirror.size.width ∧
            chain.height = toUInt mirror.size.height := follow.whole invalid chain held
        have boxed := matching _ (by rw [frameArrived_eq, held]; rfl) chain
          (by simp [presented, sameSize])
        simp only [presented, scaled, if_true] at boxed
        rw [← sameSize, width, height] at whole
        exact different ⟨boxed.1 ▸ whole.1, boxed.2 ▸ whole.2⟩
      · intro resizes copied arrived chain stored
        rw [frameArrived_eq, Option.mem_def, Option.map_eq_some_iff] at arrived
        obtain ⟨old, held, rfl⟩ := arrived
        have next := presented_buffersFollow follow held
          ⟨⟨widthPositive, widthFits⟩, heightPositive, heightFits⟩ resizes
        have settled := follow.noted_settled contentSize
        have whole := next.whole
        have boxed := next.boxed
        change (mirror.noted contentSize).frameClipRegionInvalid = _ → _ at whole boxed
        dsimp only
        split
        · rename_i clipped
          change (mirror.noted contentSize).clipped = true at clipped
          exact boxed (by simpa [clipped] using settled.symm) chain stored
        · rename_i unclipped
          change ¬(mirror.noted contentSize).clipped = true at unclipped
          have sized := whole (by simpa [unclipped] using settled.symm) chain stored
          change chain.width = toUInt (mirror.noted contentSize).size.width ∧
            chain.height = toUInt (mirror.noted contentSize).size.height at sized
          rwa [noted_size, width, height] at sized
  | _ => simp [BuffersMatch, SkipsResize]

theorem buffersFollow_kept (mirror : Mirror) (event : Event) (follow : mirror.BuffersFollow)
    (positive : PositiveFrame event) (resizes : ¬ mirror.SkipsResize event) :
    ∀ next ∈ mirror.step event, next.BuffersFollow := by
  intro next stepped
  cases event with
  | frameArrived contentSize =>
      rw [step_frameArrived, Option.mem_def, Option.map_eq_some_iff] at stepped
      obtain ⟨chain, held, rfl⟩ := stepped
      exact presented_buffersFollow follow held positive resizes
  | createMirror hParent sourceWindow item =>
      cases stepped
      exact createMirrorNoLock_buffersFollow _ _ _ _ _ _
  | handleSourceSizeChange sourceWidth sourceHeight item =>
      cases stepped
      simp only [handleSourceSizeChange]
      split
      · exact setClipNoLock_buffersFollow _ _ _ _ _ _ _ _
      · split
        · exact setClipNoLock_buffersFollow _ _ _ _ _ _ _ _
        · exact createMirrorNoLock_buffersFollow _ _ _ _ _ _
  | setClip region sourceWidth sourceHeight item =>
      cases stepped
      exact setClipNoLock_buffersFollow _ _ _ _ _ _ _ _
  | clearClip item =>
      cases stepped
      exact createMirrorNoLock_buffersFollow _ _ _ _ _ _
  | reset =>
      cases stepped
      exact resetNoLock_buffersFollow _
  | sourceClosed =>
      cases stepped
      exact resetNoLock_buffersFollow _

/-- In every run, the buffers match what is copied into them at every frame exactly if no frame
of the run skips a resize. -/
theorem buffers_match_iff (events : List Event)
    (positive : ∀ event ∈ events, PositiveFrame event) :
    Runs.Along step BuffersMatch init events ↔
      Runs.Along step (fun mirror event => ¬ mirror.SkipsResize event) init events :=
  Runs.along_iff_of_invariant buffersMatch_iff buffersFollow_kept init_buffersFollow
    (Runs.along_of_forall fun _ => positive)

theorem buffers_match_iff_resizedFrame :
    Runs.Along step BuffersMatch init
        [.setClip ⟨10, 10, 60, 50⟩ 100 80 ⟨none, ⟨100, 80⟩⟩, .frameArrived ⟨200, 160⟩] ↔
      Runs.Along step (fun mirror event => ¬ mirror.SkipsResize event) init
        [.setClip ⟨10, 10, 60, 50⟩ 100 80 ⟨none, ⟨100, 80⟩⟩, .frameArrived ⟨200, 160⟩] :=
  buffers_match_iff _ (by simp [PositiveFrame])

/-- The first frame after a clip has the size the mirror was created with, so the buffers keep
that size while the copy is half of it. -/
theorem buffers_mismatch_firstClippedFrame :
    ¬ ∀ events : List Event, (∀ event ∈ events, PositiveFrame event) →
      Runs.Along step BuffersMatch init events := by
  intro claim
  have matching := claim [.createMirror 1 2 ⟨none, ⟨100, 80⟩⟩,
    .setClip ⟨10, 10, 60, 50⟩ 100 80 ⟨none, ⟨100, 80⟩⟩, .frameArrived ⟨100, 80⟩]
    (by simp [PositiveFrame])
  revert matching
  decide

end LeanMiniViews.Mirror
