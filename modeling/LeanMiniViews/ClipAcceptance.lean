import LeanMiniViews.MirrorFrames

/-!
The clip of the source, scaled to the frame. `updateClip` refuses a region whose right or bottom
edge is the edge of the frame, although both are exclusive in a box.
-/

namespace LeanMiniViews

/-! A length scaled from the source to the frame. -/

theorem scaled_mono {side smaller larger source : Int} (sideNonneg : 0 ≤ side)
    (ordered : smaller ≤ larger) (sourcePositive : 0 < source) :
    side * smaller / source ≤ side * larger / source :=
  Int.ediv_le_ediv sourcePositive (Int.mul_le_mul_of_nonneg_left ordered sideNonneg)

theorem scaled_le_side {side edge source : Int} (sideNonneg : 0 ≤ side)
    (inside : edge ≤ source) (sourcePositive : 0 < source) : side * edge / source ≤ side :=
  Int.ediv_le_of_le_mul sourcePositive (Int.mul_le_mul_of_nonneg_left inside sideNonneg)

theorem scaled_lt_side_iff {side edge source : Int} (sidePositive : 0 < side)
    (sourcePositive : 0 < source) : side * edge / source < side ↔ edge < source := by
  rw [Int.ediv_lt_iff_lt_mul sourcePositive]
  exact Int.mul_lt_mul_left sidePositive

def Box.Nonempty (box : Box) : Prop := box.left < box.right ∧ box.top < box.bottom

instance (box : Box) : Decidable box.Nonempty := inferInstanceAs (Decidable (_ ∧ _))

structure Box.WithinFrame (box : Box) (size : SizeInt32) : Prop where
  left_nonneg : 0 ≤ box.left
  top_nonneg : 0 ≤ box.top
  right_le : box.right ≤ size.width
  bottom_le : box.bottom ≤ size.height

/-- Against what the code asks, this lets the edges of the frame through. -/
theorem Box.unusable_iff {box : Box} {size : SizeInt32} (within : box.WithinFrame size)
    (right : 0 ≤ box.right) (bottom : 0 ≤ box.bottom)
    (fits : size.width < 2147483648 ∧ size.height < 2147483648) :
    box.unusable size = false ↔
      box.Nonempty ∧ box.right < size.width ∧ box.bottom < size.height := by
  have rightFits := within.right_le
  have bottomFits := within.bottom_le
  simp only [unusable, Nonempty, Bool.or_eq_false_iff, decide_eq_false_iff_not,
    toLong_of_fits right (by omega), toLong_of_fits bottom (by omega)]
  omega

namespace Mirror

/-- A clip inside a source of this size, for a frame with a size, no product of the scaling
leaving the 32 bits. -/
structure ClipsSource (mirror : Mirror) : Prop where
  left_nonneg : 0 ≤ mirror.gdiClipRegion.left
  left_lt_right : mirror.gdiClipRegion.left < mirror.gdiClipRegion.right
  right_le : mirror.gdiClipRegion.right ≤ mirror.gdiSourceSize.cx
  top_nonneg : 0 ≤ mirror.gdiClipRegion.top
  top_lt_bottom : mirror.gdiClipRegion.top < mirror.gdiClipRegion.bottom
  bottom_le : mirror.gdiClipRegion.bottom ≤ mirror.gdiSourceSize.cy
  width_pos : 0 < mirror.size.width
  height_pos : 0 < mirror.size.height
  width_fits : mirror.size.width * mirror.gdiClipRegion.right < 2147483648
  height_fits : mirror.size.height * mirror.gdiClipRegion.bottom < 2147483648

namespace ClipsSource

variable {mirror : Mirror}

theorem cx_pos (clips : mirror.ClipsSource) : 0 < mirror.gdiSourceSize.cx := by
  have := clips.left_nonneg
  have := clips.left_lt_right
  have := clips.right_le
  omega

theorem cy_pos (clips : mirror.ClipsSource) : 0 < mirror.gdiSourceSize.cy := by
  have := clips.top_nonneg
  have := clips.top_lt_bottom
  have := clips.bottom_le
  omega

theorem size_fits (clips : mirror.ClipsSource) :
    mirror.size.width < 2147483648 ∧ mirror.size.height < 2147483648 := by
  have right : 1 ≤ mirror.gdiClipRegion.right := by
    have := clips.left_nonneg
    have := clips.left_lt_right
    omega
  have bottom : 1 ≤ mirror.gdiClipRegion.bottom := by
    have := clips.top_nonneg
    have := clips.top_lt_bottom
    omega
  exact ⟨(le_mul_of_one_le_right clips.width_pos.le right).trans_lt clips.width_fits,
    (le_mul_of_one_le_right clips.height_pos.le bottom).trans_lt clips.height_fits⟩

end ClipsSource

/-- The four edges as the exact quotients, rounded down. -/
def floorRegion (mirror : Mirror) : Box :=
  { mirror.frameClipRegion with
    left := mirror.size.width * mirror.gdiClipRegion.left / mirror.gdiSourceSize.cx
    top := mirror.size.height * mirror.gdiClipRegion.top / mirror.gdiSourceSize.cy
    right := mirror.size.width * mirror.gdiClipRegion.right / mirror.gdiSourceSize.cx
    bottom := mirror.size.height * mirror.gdiClipRegion.bottom / mirror.gdiSourceSize.cy }

theorem scaledRegion_eq_floorRegion {mirror : Mirror} (clips : mirror.ClipsSource) :
    mirror.scaledRegion = mirror.floorRegion := by
  obtain ⟨left, across, right, top, down, bottom, wide, high, widthFits, heightFits⟩ := clips
  have leftFits : mirror.size.width * mirror.gdiClipRegion.left < 2147483648 :=
    (Int.mul_lt_mul_of_pos_left across wide).trans widthFits
  have topFits : mirror.size.height * mirror.gdiClipRegion.top < 2147483648 :=
    (Int.mul_lt_mul_of_pos_left down high).trans heightFits
  have cx : 0 < mirror.gdiSourceSize.cx := by omega
  have cy : 0 < mirror.gdiSourceSize.cy := by omega
  simp only [scaledRegion, floorRegion]
  rw [scaledEdge_eq wide.le left leftFits cx, scaledEdge_eq high.le top topFits cy,
    scaledEdge_eq wide.le (by omega) widthFits cx, scaledEdge_eq high.le (by omega) heightFits cy]

theorem floorRegion_withinFrame {mirror : Mirror} (clips : mirror.ClipsSource) :
    mirror.floorRegion.WithinFrame mirror.size := by
  have wide := clips.width_pos
  have high := clips.height_pos
  refine ⟨?_, ?_, ?_, ?_⟩
  · exact Int.ediv_nonneg (Int.mul_nonneg wide.le clips.left_nonneg) clips.cx_pos.le
  · exact Int.ediv_nonneg (Int.mul_nonneg high.le clips.top_nonneg) clips.cy_pos.le
  · exact scaled_le_side wide.le clips.right_le clips.cx_pos
  · exact scaled_le_side high.le clips.bottom_le clips.cy_pos

theorem floorRegion_ordered {mirror : Mirror} (clips : mirror.ClipsSource) :
    mirror.floorRegion.left ≤ mirror.floorRegion.right ∧
      mirror.floorRegion.top ≤ mirror.floorRegion.bottom :=
  ⟨scaled_mono clips.width_pos.le clips.left_lt_right.le clips.cx_pos,
    scaled_mono clips.height_pos.le clips.top_lt_bottom.le clips.cy_pos⟩

theorem floorRegion_unusable_iff {mirror : Mirror} (clips : mirror.ClipsSource) :
    mirror.floorRegion.unusable mirror.size = false ↔
      mirror.floorRegion.Nonempty ∧
        mirror.gdiClipRegion.right < mirror.gdiSourceSize.cx ∧
        mirror.gdiClipRegion.bottom < mirror.gdiSourceSize.cy := by
  have within := floorRegion_withinFrame clips
  obtain ⟨across, down⟩ := floorRegion_ordered clips
  rw [Box.unusable_iff within (within.left_nonneg.trans across) (within.top_nonneg.trans down)
    clips.size_fits]
  simp only [floorRegion, scaled_lt_side_iff clips.width_pos clips.cx_pos,
    scaled_lt_side_iff clips.height_pos clips.cy_pos]

/-! The decision. -/

def recomputes (mirror : Mirror) (sizeChanged : Bool) : Bool :=
  sizeChanged || mirror.frameClipRegionInvalid || mirror.frameClipRegion.unusable mirror.size

theorem setClip_recomputes (mirror : Mirror)
    (left top right bottom sourceWidth sourceHeight : Int) (item : CaptureItem)
    (sizeChanged : Bool) :
    (mirror.setClip left top right bottom sourceWidth sourceHeight item).recomputes
      sizeChanged = true := by
  simp [recomputes, setClip, setClipNoLock]

theorem updateClip_recomputed {mirror : Mirror} {sizeChanged : Bool}
    (recomputed : mirror.recomputes sizeChanged = true) (sized : mirror.sourceHasSize = true) :
    (mirror.updateClip sizeChanged).frameClipRegion = mirror.scaledRegion ∧
      (mirror.updateClip sizeChanged).clipped = !mirror.scaledRegion.unusable mirror.size := by
  simp only [recomputes] at recomputed
  simp [updateClip, recomputed, sized]

/-- The box is the scaled clip, it lies within the frame, and it is used unless it is empty. -/
structure AcceptsClip (mirror updated : Mirror) : Prop where
  box : updated.frameClipRegion = mirror.floorRegion
  within : updated.frameClipRegion.WithinFrame mirror.size
  accepted : updated.clipped = true ↔ updated.frameClipRegion.Nonempty

/-- The clip is accepted as it should be exactly if it stays away from the right and the bottom
edge of the source, or has nothing left between the pixels of the frame. -/
theorem updateClip_accepts_iff {mirror : Mirror} (clips : mirror.ClipsSource)
    {sizeChanged : Bool} (recomputed : mirror.recomputes sizeChanged = true) :
    AcceptsClip mirror (mirror.updateClip sizeChanged) ↔
      (mirror.gdiClipRegion.right < mirror.gdiSourceSize.cx ∧
        mirror.gdiClipRegion.bottom < mirror.gdiSourceSize.cy) ∨
      mirror.size.width * mirror.gdiClipRegion.left / mirror.gdiSourceSize.cx =
        mirror.size.width * mirror.gdiClipRegion.right / mirror.gdiSourceSize.cx ∨
      mirror.size.height * mirror.gdiClipRegion.top / mirror.gdiSourceSize.cy =
        mirror.size.height * mirror.gdiClipRegion.bottom / mirror.gdiSourceSize.cy := by
  have sized : mirror.sourceHasSize = true := by
    simp [sourceHasSize, clips.cx_pos, clips.cy_pos]
  obtain ⟨box, accepted⟩ := updateClip_recomputed recomputed sized
  rw [scaledRegion_eq_floorRegion clips] at box accepted
  obtain ⟨across, down⟩ := floorRegion_ordered clips
  have empty : ¬ mirror.floorRegion.Nonempty ↔
      mirror.floorRegion.left = mirror.floorRegion.right ∨
        mirror.floorRegion.top = mirror.floorRegion.bottom := by
    simp only [Box.Nonempty]
    omega
  have decided : (mirror.updateClip sizeChanged).clipped = true ↔
      mirror.floorRegion.Nonempty ∧
        mirror.gdiClipRegion.right < mirror.gdiSourceSize.cx ∧
        mirror.gdiClipRegion.bottom < mirror.gdiSourceSize.cy := by
    rw [← floorRegion_unusable_iff clips]
    simp [accepted]
  refine Iff.trans ?_ (or_congr_right empty)
  rw [← imp_iff_or_not]
  constructor
  · rintro ⟨-, -, accepts⟩
    rw [decided, box] at accepts
    exact and_iff_left_iff_imp.mp accepts
  · intro safe
    refine ⟨box, box ▸ floorRegion_withinFrame clips, ?_⟩
    rw [decided, box]
    exact and_iff_left_iff_imp.mpr safe

/-- The clip of a source of 1920 by 1080 pixels in a frame of its size. -/
def clippedFullHd (region : Rect) : Mirror :=
  (init.createMirror 1 2 ⟨none, ⟨1920, 1080⟩⟩).setClip region.left region.top region.right
    region.bottom 1920 1080 ⟨none, ⟨1920, 1080⟩⟩

theorem clippedFullHd_clipsSource {region : Rect} (left : 0 ≤ region.left)
    (across : region.left < region.right) (right : region.right ≤ 1920)
    (top : 0 ≤ region.top) (down : region.top < region.bottom) (bottom : region.bottom ≤ 1080) :
    (clippedFullHd region).ClipsSource := by
  refine ⟨left, across, right, top, down, bottom, ?_, ?_, ?_, ?_⟩ <;>
    simp only [clippedFullHd, setClip, setClipNoLock, createMirrorNoLock] <;> omega

theorem updateClip_accepts_inner :
    AcceptsClip (clippedFullHd ⟨0, 0, 960, 1079⟩)
      ((clippedFullHd ⟨0, 0, 960, 1079⟩).updateClip false) :=
  (updateClip_accepts_iff
    (clippedFullHd_clipsSource (by decide) (by decide) (by decide) (by decide) (by decide)
      (by decide)) (setClip_recomputes _ _ _ _ _ _ _ _ _)).mpr (Or.inl (by decide))

/-- The right half of the source reaches its right edge. -/
theorem updateClip_refuses_rightHalf :
    ¬ ∀ (mirror : Mirror) (sizeChanged : Bool), mirror.ClipsSource →
      mirror.recomputes sizeChanged = true →
      AcceptsClip mirror (mirror.updateClip sizeChanged) := by
  intro claim
  have accepts := claim (clippedFullHd ⟨960, 0, 1920, 1000⟩) false
    (clippedFullHd_clipsSource (by decide) (by decide) (by decide) (by decide) (by decide)
      (by decide)) (setClip_recomputes _ _ _ _ _ _ _ _ _)
  exact absurd (accepts.accepted.mpr (by decide)) (by decide)

end Mirror

end LeanMiniViews
