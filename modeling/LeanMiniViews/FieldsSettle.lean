import LeanMiniViews.ClipEdges
import LeanMiniViews.NearestQuotient
import LeanMiniViews.ViewFields
import Mathlib.Algebra.Order.Ring.Abs

/-!
Leaving a box of the Views tab whose text nobody changed is a command all the same. The place and
the clip stay as they are, and under a locked ratio the sizes settle as soon as both were left.
-/

namespace LeanMiniViews

/-! Scaling a side to the other one and back. -/

theorem roundedQuotient_roundTrip {fine coarse value : Int} (finer : |coarse| ≤ |fine|)
    (nonzero : coarse ≠ 0) :
    roundedQuotient (roundedQuotient (value * fine) coarse * coarse) fine = value := by
  have rounds := roundedQuotient_roundsAway (value * fine) nonzero
  set scaled := roundedQuotient (value * fine) coarse
  have fineNonzero : fine ≠ 0 := by
    rintro rfl
    rw [abs_zero] at finer
    exact nonzero (abs_nonpos_iff.mp finer)
  have nearest : 2 * |scaled * coarse - value * fine| ≤ |coarse| := by
    rw [abs_sub_comm]
    exact rounds.nearest
  refine ((roundsAway_iff fineNonzero).mp ⟨nearest.trans finer, fun tie => ?_⟩).symm
  -- a tie needs sides of one length, and then the first quotient was exact
  exfalso
  have same : |coarse| = |fine| := by omega
  have positive : 0 < |coarse| := abs_pos.mpr nonzero
  obtain ⟨factor, whole⟩ : ∃ factor, scaled * coarse - value * fine = factor * coarse := by
    rcases abs_eq_abs.mp same with equal | opposite
    · exact ⟨scaled - value, by rw [← equal]; ring⟩
    · exact ⟨scaled + value, by rw [opposite]; ring⟩
  rw [whole, abs_mul] at tie nearest
  rcases eq_or_ne factor 0 with zero | other
  · rw [zero, abs_zero] at tie
    omega
  · have atLeast : 1 ≤ |factor| := Int.one_le_abs other
    nlinarith

theorem roundedQuotient_settles (side own other : Int) :
    roundedQuotient
        (roundedQuotient (roundedQuotient (side * other) own * own) other * other) own =
      roundedQuotient (side * other) own := by
  rcases eq_or_ne own 0 with rfl | ownNonzero
  · rw [roundedQuotient_zero_right, roundedQuotient_zero_right]
  rcases eq_or_ne other 0 with rfl | otherNonzero
  · simp [roundedQuotient_zero_right]
  rcases le_total |other| |own| with finer | coarser
  · exact roundedQuotient_roundTrip finer otherNonzero
  · rw [roundedQuotient_roundTrip coarser ownNonzero]

/-! The sizes alone. -/

/-- The sides of the client area after a box was left that showed one of them, for a view that
shows so much of its source. -/
def leaveSize (locked : Bool) (shownWidth shownHeight : Int) (size : Int × Int) :
    ViewsEdit → Int × Int
  | .editWindowWidth =>
      if locked then (size.1, roundedQuotient (size.1 * shownHeight) shownWidth) else size
  | .editWindowHeight =>
      if locked then (roundedQuotient (size.2 * shownWidth) shownHeight, size.2) else size
  | _ => size

variable {locked : Bool} {shownWidth shownHeight : Int}

/-- Leaving the box of the width changes nothing, and leaving that of the height. -/
def WidthSettled (locked : Bool) (shownWidth shownHeight : Int) (size : Int × Int) : Prop :=
  leaveSize locked shownWidth shownHeight size .editWindowWidth = size

def HeightSettled (locked : Bool) (shownWidth shownHeight : Int) (size : Int × Int) : Prop :=
  leaveSize locked shownWidth shownHeight size .editWindowHeight = size

theorem WidthSettled.leave {size : Int × Int}
    (settled : WidthSettled locked shownWidth shownHeight size) (idFrom : ViewsEdit) :
    WidthSettled locked shownWidth shownHeight
      (leaveSize locked shownWidth shownHeight size idFrom) := by
  cases locked with
  | false => cases idFrom <;> exact settled
  | true =>
      cases idFrom with
      | editWindowWidth => rw [settled]; exact settled
      | editWindowHeight =>
          obtain ⟨width, height⟩ := size
          have scaled : roundedQuotient (width * shownHeight) shownWidth = height :=
            congrArg Prod.snd settled
          have again := roundedQuotient_settles width shownWidth shownHeight
          rw [scaled] at again
          exact congrArg (Prod.mk _) again
      | _ => exact settled

theorem HeightSettled.leave {size : Int × Int}
    (settled : HeightSettled locked shownWidth shownHeight size) (idFrom : ViewsEdit) :
    HeightSettled locked shownWidth shownHeight
      (leaveSize locked shownWidth shownHeight size idFrom) := by
  cases locked with
  | false => cases idFrom <;> exact settled
  | true =>
      cases idFrom with
      | editWindowHeight => rw [settled]; exact settled
      | editWindowWidth =>
          obtain ⟨width, height⟩ := size
          have scaled : roundedQuotient (height * shownWidth) shownHeight = width :=
            congrArg Prod.fst settled
          have again := roundedQuotient_settles height shownHeight shownWidth
          rw [scaled] at again
          exact congrArg (fun side => (side, _)) again
      | _ => exact settled

theorem widthSettled_leave (size : Int × Int) :
    WidthSettled locked shownWidth shownHeight
      (leaveSize locked shownWidth shownHeight size .editWindowWidth) := by
  cases locked <;> rfl

theorem heightSettled_leave (size : Int × Int) :
    HeightSettled locked shownWidth shownHeight
      (leaveSize locked shownWidth shownHeight size .editWindowHeight) := by
  cases locked <;> rfl

theorem leaveSize_of_settled {size : Int × Int}
    (width : WidthSettled locked shownWidth shownHeight size)
    (height : HeightSettled locked shownWidth shownHeight size) (idFrom : ViewsEdit) :
    leaveSize locked shownWidth shownHeight size idFrom = size := by
  cases idFrom with
  | editWindowWidth => exact width
  | editWindowHeight => exact height
  | _ => rfl

theorem leaveSizes_of_settled {size : Int × Int}
    (width : WidthSettled locked shownWidth shownHeight size)
    (height : HeightSettled locked shownWidth shownHeight size) (idFroms : List ViewsEdit) :
    idFroms.foldl (leaveSize locked shownWidth shownHeight) size = size := by
  induction idFroms with
  | nil => rfl
  | cons idFrom rest ih => rw [List.foldl_cons, leaveSize_of_settled width height, ih]

theorem leaveSizes_settled (before : List ViewsEdit) (size : Int × Int) :
    let last := before.foldl (leaveSize locked shownWidth shownHeight) size
    (WidthSettled locked shownWidth shownHeight size ∨ .editWindowWidth ∈ before →
        WidthSettled locked shownWidth shownHeight last) ∧
      (HeightSettled locked shownWidth shownHeight size ∨ .editWindowHeight ∈ before →
        HeightSettled locked shownWidth shownHeight last) := by
  induction before generalizing size with
  | nil => simp
  | cons idFrom rest ih =>
      obtain ⟨width, height⟩ := ih (leaveSize locked shownWidth shownHeight size idFrom)
      refine ⟨fun left => width ?_, fun left => height ?_⟩
      · rcases left with settled | left
        · exact Or.inl (settled.leave idFrom)
        · rcases List.mem_cons.mp left with rfl | later
          · exact Or.inl (widthSettled_leave size)
          · exact Or.inr later
      · rcases left with settled | left
        · exact Or.inl (settled.leave idFrom)
        · rcases List.mem_cons.mp left with rfl | later
          · exact Or.inl (heightSettled_leave size)
          · exact Or.inr later

theorem settled_of_left {before : List ViewsEdit} {size last : Int × Int}
    (reached : last = before.foldl (leaveSize locked shownWidth shownHeight) size)
    (width : .editWindowWidth ∈ before) (height : .editWindowHeight ∈ before) :
    WidthSettled locked shownWidth shownHeight last ∧
      HeightSettled locked shownWidth shownHeight last := by
  obtain ⟨widthSettles, heightSettles⟩ := leaveSizes_settled before size
  rw [reached]
  exact ⟨widthSettles (Or.inr width), heightSettles (Or.inr height)⟩

theorem leaveSizes_unlocked (size : Int × Int) (idFroms : List ViewsEdit) :
    idFroms.foldl (leaveSize false shownWidth shownHeight) size = size := by
  have width : WidthSettled false shownWidth shownHeight size := rfl
  have height : HeightSettled false shownWidth shownHeight size := rfl
  exact leaveSizes_of_settled width height idFroms

/-! The numbers in the boxes stay numbers of 32 bits. -/

structure SmallSides (size : Int × Int) (bound : Int) : Prop where
  width : |size.1| ≤ bound
  height : |size.2| ≤ bound

/-- What the sizes are on the way: as they were, or scaled from one side that is as it was, or
settled. -/
def OnTheWay (locked : Bool) (shownWidth shownHeight : Int) (size : Int × Int) : Prop :=
  SmallSides size 32767 ∨
    (WidthSettled locked shownWidth shownHeight size ∧ |size.1| ≤ 32767 ∧
      |size.2| ≤ 2147483647) ∨
    (HeightSettled locked shownWidth shownHeight size ∧ |size.2| ≤ 32767 ∧
      |size.1| ≤ 2147483647) ∨
    (WidthSettled locked shownWidth shownHeight size ∧
      HeightSettled locked shownWidth shownHeight size ∧ SmallSides size 2147483647)

theorem OnTheWay.fits {size : Int × Int} (onTheWay : OnTheWay locked shownWidth shownHeight size) :
    SmallSides size 2147483647 := by
  rcases onTheWay with small | ⟨-, width, height⟩ | ⟨-, height, width⟩ | ⟨-, -, small⟩
  · exact ⟨small.width.trans (by norm_num), small.height.trans (by norm_num)⟩
  · exact ⟨width.trans (by norm_num), height⟩
  · exact ⟨width, height.trans (by norm_num)⟩
  · exact small

/-- A side scaled to the other one, and one that was scaled to it scaled back. -/
theorem abs_scaled_le {side own other : Int} (small : |side| ≤ 32767)
    (otherBounds : 0 ≤ other ∧ other ≤ 32767) :
    |roundedQuotient (side * other) own| ≤ 1073676289 := by
  rcases eq_or_ne own 0 with rfl | nonzero
  · rw [roundedQuotient_zero_right]
    norm_num
  · have atLeast : 1 ≤ |own| := Int.one_le_abs nonzero
    have product : |side * other| ≤ 32767 * 32767 := by
      rw [abs_mul, abs_of_nonneg otherBounds.1]
      exact mul_le_mul small otherBounds.2 otherBounds.1 (by norm_num)
    have bounded : |side * other| ≤ ((1073676289 : Nat) : Int) * |own| := by
      push_cast
      omega
    exact abs_roundedQuotient_le bounded

theorem abs_scaled_back_le {side own other : Int} (small : |side| ≤ 32767)
    (ownBounds : 0 ≤ own ∧ own ≤ 32767) (otherNonneg : 0 ≤ other) :
    |roundedQuotient (roundedQuotient (side * other) own * own) other| ≤ 49151 := by
  rcases eq_or_ne own 0 with rfl | ownNonzero
  · have nothing : roundedQuotient 0 other = 0 := by simp [roundedQuotient]
    rw [roundedQuotient_zero_right, Int.zero_mul, nothing]
    norm_num
  rcases otherNonneg.eq_or_lt with rfl | positive
  · rw [roundedQuotient_zero_right]
    norm_num
  · have nearest := (roundedQuotient_roundsAway (side * other) ownNonzero).nearest
    set scaled := roundedQuotient (side * other) own
    have sides : |side * other| ≤ 32767 * other := by
      rw [abs_mul, abs_of_pos positive]
      exact Int.mul_le_mul_of_nonneg_right small otherNonneg
    have bounded : |scaled * own| ≤ ((49151 : Nat) : Int) * |other| := by
      rw [abs_of_pos positive]
      rw [abs_of_nonneg ownBounds.1] at nearest
      push_cast
      simp only [Int.abs_eq_natAbs] at nearest sides ⊢
      omega
    exact abs_roundedQuotient_le bounded

theorem OnTheWay.leaveWidth {width height : Int}
    (onTheWay : OnTheWay true shownWidth shownHeight (width, height))
    (widthBounds : 0 ≤ shownWidth ∧ shownWidth ≤ 32767)
    (heightBounds : 0 ≤ shownHeight ∧ shownHeight ≤ 32767) :
    OnTheWay true shownWidth shownHeight
      (width, roundedQuotient (width * shownHeight) shownWidth) := by
  have widthSettled : WidthSettled true shownWidth shownHeight
      (width, roundedQuotient (width * shownHeight) shownWidth) :=
    widthSettled_leave (width, height)
  rcases onTheWay with small | ⟨settled, small⟩ | ⟨settled, small, fits⟩ | ⟨settled, both⟩
  · exact Or.inr (Or.inl ⟨widthSettled, small.width,
      (abs_scaled_le small.width heightBounds).trans (by norm_num)⟩)
  · have scaled : roundedQuotient (width * shownHeight) shownWidth = height :=
      congrArg Prod.snd settled
    rw [scaled]
    exact Or.inr (Or.inl ⟨settled, small⟩)
  · have heightSettled : HeightSettled true shownWidth shownHeight
        (width, roundedQuotient (width * shownHeight) shownWidth) :=
      settled.leave .editWindowWidth
    have scaled : roundedQuotient (height * shownWidth) shownHeight = width :=
      congrArg Prod.fst settled
    have back := abs_scaled_back_le small heightBounds widthBounds.1
    rw [scaled] at back
    exact Or.inr (Or.inr (Or.inr ⟨widthSettled, heightSettled, fits, back.trans (by norm_num)⟩))
  · have scaled : roundedQuotient (width * shownHeight) shownWidth = height :=
      congrArg Prod.snd settled
    rw [scaled]
    exact Or.inr (Or.inr (Or.inr ⟨settled, both⟩))

theorem OnTheWay.leaveHeight {width height : Int}
    (onTheWay : OnTheWay true shownWidth shownHeight (width, height))
    (widthBounds : 0 ≤ shownWidth ∧ shownWidth ≤ 32767)
    (heightBounds : 0 ≤ shownHeight ∧ shownHeight ≤ 32767) :
    OnTheWay true shownWidth shownHeight
      (roundedQuotient (height * shownWidth) shownHeight, height) := by
  have heightSettled : HeightSettled true shownWidth shownHeight
      (roundedQuotient (height * shownWidth) shownHeight, height) :=
    heightSettled_leave (width, height)
  rcases onTheWay with small | ⟨settled, small, fits⟩ | ⟨settled, small⟩ | ⟨both, settled, fits⟩
  · exact Or.inr (Or.inr (Or.inl ⟨heightSettled, small.height,
      (abs_scaled_le small.height widthBounds).trans (by norm_num)⟩))
  · have widthSettled : WidthSettled true shownWidth shownHeight
        (roundedQuotient (height * shownWidth) shownHeight, height) :=
      settled.leave .editWindowHeight
    have scaled : roundedQuotient (width * shownHeight) shownWidth = height :=
      congrArg Prod.snd settled
    have back := abs_scaled_back_le small widthBounds heightBounds.1
    rw [scaled] at back
    exact Or.inr (Or.inr (Or.inr ⟨widthSettled, heightSettled, back.trans (by norm_num), fits⟩))
  · have scaled : roundedQuotient (height * shownWidth) shownHeight = width :=
      congrArg Prod.fst settled
    rw [scaled]
    exact Or.inr (Or.inr (Or.inl ⟨settled, small⟩))
  · have scaled : roundedQuotient (height * shownWidth) shownHeight = width :=
      congrArg Prod.fst settled
    rw [scaled]
    exact Or.inr (Or.inr (Or.inr ⟨both, settled, fits⟩))

theorem OnTheWay.leave {size : Int × Int} (onTheWay : OnTheWay locked shownWidth shownHeight size)
    (widthBounds : 0 ≤ shownWidth ∧ shownWidth ≤ 32767)
    (heightBounds : 0 ≤ shownHeight ∧ shownHeight ≤ 32767) (idFrom : ViewsEdit) :
    OnTheWay locked shownWidth shownHeight
      (leaveSize locked shownWidth shownHeight size idFrom) := by
  cases locked with
  | false => cases idFrom <;> exact onTheWay
  | true =>
      cases idFrom with
      | editWindowWidth => exact onTheWay.leaveWidth widthBounds heightBounds
      | editWindowHeight => exact onTheWay.leaveHeight widthBounds heightBounds
      | _ => exact onTheWay

end LeanMiniViews
