import LeanMiniViews.FixRatio

/-!
The two places that keep a ratio: `FixRatio`, which leaves an area inside a client area it
cannot change, and `DoSizing`, which corrects the rectangle the user drags.
-/

namespace LeanMiniViews.MiniView

/-! Four size cases against one comparison. -/

/-- The purpose of the case analysis in `FixRatio`: the widest or the highest area with the
ratio of the source. -/
def fitInside (guideMiniWidth guideMiniHeight sourceWidth sourceHeight : Int) : Int × Int :=
  if guideMiniWidth * sourceHeight ≤ guideMiniHeight * sourceWidth then
    (guideMiniWidth, roundedQuotient (guideMiniWidth * sourceHeight) sourceWidth)
  else (roundedQuotient (guideMiniHeight * sourceWidth) sourceHeight, guideMiniHeight)

theorem Scaled.eq_fitInside {size : Int × Int} {cliWidth cliHeight sourceWidth sourceHeight : Int}
    (scaled : Scaled size cliWidth cliHeight sourceWidth sourceHeight)
    (cliWide : 0 < cliWidth) (cliHigh : 0 < cliHeight)
    (wide : 0 < sourceWidth) (high : 0 < sourceHeight) :
    size = fitInside cliWidth cliHeight sourceWidth sourceHeight := by
  unfold fitInside
  rcases scaled with ⟨rfl, smaller⟩ | ⟨rfl, smaller⟩
  · rw [if_pos smaller]
  · by_cases tie : cliWidth * sourceHeight ≤ cliHeight * sourceWidth
    · -- on a tie both formulas give the whole client area
      have same : cliWidth * sourceHeight = cliHeight * sourceWidth := by omega
      have whole : roundedQuotient (cliHeight * sourceWidth) sourceHeight = cliWidth := by
        rw [← same, roundedQuotient_mul cliWide.le high]
      rw [if_pos tie, whole, same, roundedQuotient_mul cliHigh.le wide]
    · rw [if_neg tie]

theorem fittedSize_eq_fitInside {cliWidth cliHeight sourceWidth sourceHeight : Int}
    (cliWide : 0 < cliWidth) (cliHigh : 0 < cliHeight)
    (wide : 0 < sourceWidth) (high : 0 < sourceHeight) :
    fittedSize cliWidth cliHeight sourceWidth sourceHeight =
      fitInside cliWidth cliHeight sourceWidth sourceHeight :=
  (fittedSize_scaled cliWide cliHigh wide high).eq_fitInside cliWide cliHigh wide high

/-- An area of this size inside a client area, in its middle up to one pixel. -/
structure CentredIn (area : Rect) (width height cliWidth cliHeight : Int) : Prop where
  width : area.width = width
  height : area.height = height
  left_nonneg : 0 ≤ area.left
  top_nonneg : 0 ≤ area.top
  right_bound : area.right ≤ cliWidth
  bottom_bound : area.bottom ≤ cliHeight
  across : |area.left - (cliWidth - area.right)| ≤ 1
  down : |area.top - (cliHeight - area.bottom)| ≤ 1

theorem margins_balanced {outer inner : Int} (inside : inner ≤ outer) :
    |roundedQuotient (outer - inner).natAbs 2 -
      (outer - (roundedQuotient (outer - inner).natAbs 2 + inner))| ≤ 1 := by
  rw [roundedQuotient_of_nonneg (by omega) (by omega), abs_le]
  omega

theorem centred_centredIn {cliWidth cliHeight cw ch : Int} (narrower : cw ≤ cliWidth)
    (lower : ch ≤ cliHeight) :
    CentredIn (centred cliWidth cliHeight cw ch) cw ch cliWidth cliHeight := by
  have across := half_margin narrower
  have down := half_margin lower
  refine ⟨?_, ?_, across.1, down.1, across.2, down.2, margins_balanced narrower,
    margins_balanced lower⟩
  · simp [centred, Rect.width]
  · simp [centred, Rect.height]

theorem fixRatio_recomputed {view : MiniView} {desktop : Desktop}
    (locked : view.lockRatio = true) (settled : view.settingWindow = false)
    (stale : view.shownWidth desktop ≠ view.lastCliWidthFixedTo ∨
      view.shownHeight desktop ≠ view.lastCliHeightFixedTo) (size : Int × Int)
    (fitted : fittedSize view.lastUserSetCliWidth view.lastUserSetCliHeight
      (view.shownWidth desktop) (view.shownHeight desktop) = size) :
    ((view.fixRatio desktop).internallyClipped = false ↔
        size = (view.lastUserSetCliWidth, view.lastUserSetCliHeight)) ∧
      (size ≠ (view.lastUserSetCliWidth, view.lastUserSetCliHeight) →
        (view.fixRatio desktop).rcInternalClip =
          centred view.lastUserSetCliWidth view.lastUserSetCliHeight size.1 size.2) := by
  by_cases fills : size = (view.lastUserSetCliWidth, view.lastUserSetCliHeight)
  · have unchanged : ¬ (size.1 ≠ view.lastUserSetCliWidth ∨
        size.2 ≠ view.lastUserSetCliHeight) := by
      simp [fills]
    simp only [fixRatio, locked, settled, Bool.not_false, Bool.and_self, if_true, if_pos stale,
      fitted, if_neg unchanged]
    simp [fills]
  · have changed : size.1 ≠ view.lastUserSetCliWidth ∨
        size.2 ≠ view.lastUserSetCliHeight := by
      rw [Prod.ext_iff] at fills
      omega
    simp only [fixRatio, locked, settled, Bool.not_false, Bool.and_self, if_true, if_pos stale,
      fitted, if_pos changed]
    simp [fills]

theorem fixRatio_fits_inside (view : MiniView) (desktop : Desktop)
    (locked : view.lockRatio = true) (settled : view.settingWindow = false)
    (positive : view.Positive desktop)
    (stale : view.shownWidth desktop ≠ view.lastCliWidthFixedTo ∨
      view.shownHeight desktop ≠ view.lastCliHeightFixedTo) :
    let gw := view.lastUserSetCliWidth
    let gh := view.lastUserSetCliHeight
    let size := fittedSize gw gh (view.shownWidth desktop) (view.shownHeight desktop)
    size = fitInside gw gh (view.shownWidth desktop) (view.shownHeight desktop) ∧
      size.1 ≤ gw ∧ size.2 ≤ gh ∧
      ((view.fixRatio desktop).internallyClipped = false ↔ size = (gw, gh)) ∧
      (size ≠ (gw, gh) →
        CentredIn (view.fixRatio desktop).rcInternalClip size.1 size.2 gw gh) := by
  obtain ⟨wide, high, cliWide, cliHigh⟩ := positive
  have bounds := (fittedSize_scaled cliWide cliHigh wide high).bounds cliWide cliHigh wide high
  obtain ⟨unclipped, clip⟩ := fixRatio_recomputed locked settled stale _ rfl
  refine ⟨fittedSize_eq_fitInside cliWide cliHigh wide high, bounds.1.2, bounds.2.2, unclipped,
    ?_⟩
  intro smaller
  rw [clip smaller]
  exact centred_centredIn bounds.1.2 bounds.2.2

theorem fixRatio_fits_inside_wide :
    let view := { MiniView.init ⟨false, false, true, false⟩ with
      settingWindow := false, lastUserSetCliWidth := 300, lastUserSetCliHeight := 200 }
    let desktop : Desktop := ⟨some ⟨0, 0, 800, 400⟩, false, ⟨none, ⟨0, 0⟩⟩, 0, 0⟩
    (300, 150) = fitInside 300 200 800 400 ∧
      CentredIn (view.fixRatio desktop).rcInternalClip 300 150 300 200 := by
  intro view desktop
  have fitted := fixRatio_fits_inside view desktop rfl rfl (by decide) (by decide)
  exact ⟨by decide, fitted.2.2.2.2 (by decide)⟩

/-! Dragging an edge or a corner. -/

inductive Side where
  | left
  | top
  | right
  | bottom
deriving DecidableEq, Repr

def Side.opposite : Side → Side
  | .left => .right
  | .top => .bottom
  | .right => .left
  | .bottom => .top

def sideOf (rect : Rect) : Side → Int
  | .left => rect.left
  | .top => rect.top
  | .right => rect.right
  | .bottom => rect.bottom

namespace SizingEdge

def grabbed : SizingEdge → List Side
  | .left => [.left]
  | .right => [.right]
  | .top => [.top]
  | .topLeft => [.top, .left]
  | .topRight => [.top, .right]
  | .bottom => [.bottom]
  | .bottomLeft => [.bottom, .left]
  | .bottomRight => [.bottom, .right]

def IsCorner (edge : SizingEdge) : Prop := edge.grabbed.length = 2

section Grabbed

variable {edge : SizingEdge}

theorem left_mem_grabbed :
    .left ∈ edge.grabbed ↔ edge = .left ∨ edge = .topLeft ∨ edge = .bottomLeft := by
  cases edge <;> simp [grabbed]

theorem top_mem_grabbed :
    .top ∈ edge.grabbed ↔ edge = .top ∨ edge = .topLeft ∨ edge = .topRight := by
  cases edge <;> simp [grabbed]

theorem not_side_of_corner (corner : edge.IsCorner) :
    edge ≠ .left ∧ edge ≠ .top ∧ edge ≠ .right ∧ edge ≠ .bottom := by
  refine ⟨?_, ?_, ?_, ?_⟩ <;> rintro rfl <;> simp [IsCorner, grabbed] at corner

theorem right_grabbed_of_corner (corner : edge.IsCorner) (left : .left ∉ edge.grabbed) :
    .right ∈ edge.grabbed := by
  cases edge <;> simp [IsCorner, grabbed] at corner left ⊢

theorem bottom_grabbed_of_corner (corner : edge.IsCorner) (top : .top ∉ edge.grabbed) :
    .bottom ∈ edge.grabbed := by
  cases edge <;> simp [IsCorner, grabbed] at corner top ⊢

end Grabbed

end SizingEdge

def ChangesOnly (rect sized : Rect) (changed : Side) : Prop :=
  ∀ side, side ≠ changed → sideOf sized side = sideOf rect side

structure Contained (inner outer : Rect) : Prop where
  left : outer.left ≤ inner.left
  top : outer.top ≤ inner.top
  right : inner.right ≤ outer.right
  bottom : inner.bottom ≤ outer.bottom

/-- What dragging an edge may make of the proposed rectangle, in a view with this border that
shows a region of this size. -/
structure SizedTo (edge : SizingEdge) (rect sized : Rect)
    (borderWidth borderHeight sourceWidth sourceHeight : Int) : Prop where
  one_side : ∃ changed, ChangesOnly rect sized changed ∧
    (edge.IsCorner → changed ∈ edge.grabbed)
  opposite_fixed : ∀ side ∈ edge.grabbed,
    sideOf sized side.opposite = sideOf rect side.opposite
  ratio :
    sized.width - borderWidth =
        roundedQuotient ((sized.height - borderHeight) * sourceWidth) sourceHeight ∨
      sized.height - borderHeight =
        roundedQuotient ((sized.width - borderWidth) * sourceHeight) sourceWidth
  contained : edge.IsCorner → Contained sized rect

section LockedSizing

variable {edge : SizingEdge} {rect sized : Rect}
  {borderWidth borderHeight sourceWidth sourceHeight : Int}

theorem changesOnly_left (rect : Rect) (left : Int) :
    ChangesOnly rect { rect with left := left } .left := by
  intro side other
  cases side with
  | left => contradiction
  | top => rfl
  | right => rfl
  | bottom => rfl

theorem changesOnly_top (rect : Rect) (top : Int) :
    ChangesOnly rect { rect with top := top } .top := by
  intro side other
  cases side with
  | left => rfl
  | top => contradiction
  | right => rfl
  | bottom => rfl

theorem changesOnly_right (rect : Rect) (right : Int) :
    ChangesOnly rect { rect with right := right } .right := by
  intro side other
  cases side with
  | left => rfl
  | top => rfl
  | right => contradiction
  | bottom => rfl

theorem changesOnly_bottom (rect : Rect) (bottom : Int) :
    ChangesOnly rect { rect with bottom := bottom } .bottom := by
  intro side other
  cases side with
  | left => rfl
  | top => rfl
  | right => rfl
  | bottom => contradiction

theorem Side.opposite_opposite (side : Side) : side.opposite.opposite = side := by
  cases side <;> rfl

theorem sizedTo_of_changesOnly (changed : Side) (only : ChangesOnly rect sized changed)
    (grabs : edge.IsCorner → changed ∈ edge.grabbed)
    (free : changed.opposite ∉ edge.grabbed)
    (ratio : sized.width - borderWidth =
        roundedQuotient ((sized.height - borderHeight) * sourceWidth) sourceHeight ∨
      sized.height - borderHeight =
        roundedQuotient ((sized.width - borderWidth) * sourceHeight) sourceWidth)
    (contained : edge.IsCorner → Contained sized rect) :
    SizedTo edge rect sized borderWidth borderHeight sourceWidth sourceHeight :=
  ⟨⟨changed, only, grabs⟩, fun side grabbed => only _ fun same =>
    free (same ▸ side.opposite_opposite.symm ▸ grabbed), ratio, contained⟩

theorem widthMatched_sizedTo (matchesWidth : edge = .bottom ∨ edge = .top ∨
      ((rect.right - rect.left - borderWidth) * sourceHeight >
        sourceWidth * (rect.bottom - rect.top - borderHeight) ∧ edge ≠ .left ∧ edge ≠ .right))
    (wide : 0 < sourceWidth) (high : 0 < sourceHeight)
    (cliWide : 0 < rect.right - rect.left - borderWidth)
    (cliHigh : 0 < rect.bottom - rect.top - borderHeight) (quotient : Int)
    (matched : quotient =
      roundedQuotient ((rect.bottom - rect.top - borderHeight) * sourceWidth) sourceHeight) :
    SizedTo edge rect
      (if edge = .bottomLeft ∨ edge = .topLeft then
        { rect with left := rect.right - quotient - borderWidth }
      else { rect with right := rect.left + quotient + borderWidth })
      borderWidth borderHeight sourceWidth sourceHeight := by
  have narrower : edge.IsCorner → quotient ≤ rect.right - rect.left - borderWidth := by
    intro corner
    have notSide := SizingEdge.not_side_of_corner corner
    have tooWide : sourceWidth * (rect.bottom - rect.top - borderHeight) <
        (rect.right - rect.left - borderWidth) * sourceHeight :=
      ((matchesWidth.resolve_left notSide.2.2.2).resolve_left notSide.2.1).1
    rw [Int.mul_comm sourceWidth] at tooWide
    rw [matched]
    exact roundedQuotient_le (Int.mul_nonneg cliHigh.le wide.le) tooWide.le cliWide.le high
  split
  · rename_i grabsLeft
    refine sizedTo_of_changesOnly .left (changesOnly_left rect _) (fun _ => ?_) ?_ (Or.inl ?_)
      fun corner => ?_
    · exact SizingEdge.left_mem_grabbed.mpr (Or.inr grabsLeft.symm)
    · rcases grabsLeft with rfl | rfl <;> simp [SizingEdge.grabbed, Side.opposite]
    · simp only [Rect.width, Rect.height]
      omega
    · have bound := narrower corner
      exact ⟨by simp only; omega, Int.le_refl _, Int.le_refl _, Int.le_refl _⟩
  · rename_i grabsOther
    have leftFree : .left ∉ edge.grabbed := by
      rw [SizingEdge.left_mem_grabbed]
      rintro (rfl | isTop | isBottom)
      · simp at matchesWidth
      · exact grabsOther (Or.inr isTop)
      · exact grabsOther (Or.inl isBottom)
    refine sizedTo_of_changesOnly .right (changesOnly_right rect _)
      (fun corner => SizingEdge.right_grabbed_of_corner corner leftFree) leftFree (Or.inl ?_)
      fun corner => ?_
    · simp only [Rect.width, Rect.height]
      omega
    · have bound := narrower corner
      exact ⟨Int.le_refl _, Int.le_refl _, by simp only; omega, Int.le_refl _⟩

theorem heightMatched_sizedTo (matchesHeight : ¬ (edge = .bottom ∨ edge = .top ∨
      ((rect.right - rect.left - borderWidth) * sourceHeight >
        sourceWidth * (rect.bottom - rect.top - borderHeight) ∧ edge ≠ .left ∧ edge ≠ .right)))
    (wide : 0 < sourceWidth) (high : 0 < sourceHeight)
    (cliWide : 0 < rect.right - rect.left - borderWidth)
    (cliHigh : 0 < rect.bottom - rect.top - borderHeight) (quotient : Int)
    (matched : quotient =
      roundedQuotient ((rect.right - rect.left - borderWidth) * sourceHeight) sourceWidth) :
    SizedTo edge rect
      (if edge = .topRight ∨ edge = .topLeft then
        { rect with top := rect.bottom - quotient - borderHeight }
      else { rect with bottom := rect.top + quotient + borderHeight })
      borderWidth borderHeight sourceWidth sourceHeight := by
  have lower : edge.IsCorner → quotient ≤ rect.bottom - rect.top - borderHeight := by
    intro corner
    have tooHigh : (rect.right - rect.left - borderWidth) * sourceHeight ≤
        sourceWidth * (rect.bottom - rect.top - borderHeight) := by
      have notSide := SizingEdge.not_side_of_corner corner
      by_contra wider
      exact matchesHeight (Or.inr (Or.inr ⟨not_le.mp wider, notSide.1, notSide.2.2.1⟩))
    rw [Int.mul_comm sourceWidth] at tooHigh
    rw [matched]
    exact roundedQuotient_le (Int.mul_nonneg cliWide.le high.le) tooHigh cliHigh.le wide
  split
  · rename_i grabsTop
    refine sizedTo_of_changesOnly .top (changesOnly_top rect _) (fun _ => ?_) ?_ (Or.inr ?_)
      fun corner => ?_
    · exact SizingEdge.top_mem_grabbed.mpr (Or.inr grabsTop.symm)
    · rcases grabsTop with rfl | rfl <;> simp [SizingEdge.grabbed, Side.opposite]
    · simp only [Rect.width, Rect.height]
      omega
    · have bound := lower corner
      exact ⟨Int.le_refl _, by simp only; omega, Int.le_refl _, Int.le_refl _⟩
  · rename_i grabsOther
    have topFree : .top ∉ edge.grabbed := by
      rw [SizingEdge.top_mem_grabbed]
      rintro (isTop | isTopLeft | isTopRight)
      · exact matchesHeight (Or.inr (Or.inl isTop))
      · exact grabsOther (Or.inr isTopLeft)
      · exact grabsOther (Or.inl isTopRight)
    refine sizedTo_of_changesOnly .bottom (changesOnly_bottom rect _)
      (fun corner => SizingEdge.bottom_grabbed_of_corner corner topFree) topFree (Or.inr ?_)
      fun corner => ?_
    · simp only [Rect.width, Rect.height]
      omega
    · have bound := lower corner
      exact ⟨Int.le_refl _, Int.le_refl _, Int.le_refl _, by simp only; omega⟩

end LockedSizing

theorem lockedSizing_sizedTo (edge : SizingEdge) (rect : Rect)
    {borderWidth borderHeight sourceWidth sourceHeight : Int}
    (wide : 0 < sourceWidth) (high : 0 < sourceHeight)
    (cliWide : 0 < rect.right - rect.left - borderWidth)
    (cliHigh : 0 < rect.bottom - rect.top - borderHeight) :
    SizedTo edge rect (lockedSizing edge rect borderWidth borderHeight sourceWidth sourceHeight)
      borderWidth borderHeight sourceWidth sourceHeight := by
  unfold lockedSizing
  by_cases matchesWidth : edge = .bottom ∨ edge = .top ∨
      ((rect.right - rect.left - borderWidth) * sourceHeight >
        sourceWidth * (rect.bottom - rect.top - borderHeight) ∧ edge ≠ .left ∧ edge ≠ .right)
  · simpa only [if_pos matchesWidth] using
      widthMatched_sizedTo matchesWidth wide high cliWide cliHigh _ rfl
  · simpa only [if_neg matchesWidth, ite_self] using
      heightMatched_sizedTo matchesWidth wide high cliWide cliHigh _ rfl

theorem doSizing_locked (view : MiniView) (desktop : Desktop) (edge : SizingEdge) (rect : Rect)
    (locked : view.lockRatio = true) (settled : view.settingWindow = false)
    (wide : 0 < view.shownWidth desktop) (high : 0 < view.shownHeight desktop)
    (cliWide : 0 < rect.width - view.getBorderSize.1)
    (cliHigh : 0 < rect.height - view.getBorderSize.2) :
    let answer := view.doSizing desktop edge rect
    SizedTo edge rect answer.2 view.getBorderSize.1 view.getBorderSize.2
        (view.shownWidth desktop) (view.shownHeight desktop) ∧
      answer.1.lastUserSetCliWidth = answer.2.width - view.getBorderSize.1 ∧
      answer.1.lastUserSetCliHeight = answer.2.height - view.getBorderSize.2 ∧
      answer.1.lastCliWidthFixedTo = view.shownWidth desktop ∧
      answer.1.lastCliHeightFixedTo = view.shownHeight desktop ∧
      answer.1.internallyClipped = false := by
  have locks : (!view.clearFixRatioCache.settingWindow && view.clearFixRatioCache.lockRatio) =
      true := by
    simp [clearFixRatioCache, locked, settled]
  simp only [doSizing, locks, if_true]
  exact ⟨lockedSizing_sizedTo edge rect wide high cliWide cliHigh, rfl, rfl, rfl, rfl, rfl⟩

theorem doSizing_locked_topLeft :
    let view := { MiniView.init ⟨false, false, true, false⟩ with
      settingWindow := false, window := ⟨1, 0, 0, 216, 139, true, true, ⟨8, 31, 8, 8⟩⟩ }
    let desktop : Desktop := ⟨some ⟨0, 0, 800, 400⟩, false, ⟨none, ⟨0, 0⟩⟩, 0, 0⟩
    (view.doSizing desktop .topLeft ⟨0, 0, 416, 139⟩).2 = ⟨200, 0, 416, 139⟩ ∧
      Contained (view.doSizing desktop .topLeft ⟨0, 0, 416, 139⟩).2 ⟨0, 0, 416, 139⟩ := by
  intro view desktop
  have sized := doSizing_locked view desktop .topLeft ⟨0, 0, 416, 139⟩ rfl rfl (by decide)
    (by decide) (by decide) (by decide)
  exact ⟨by decide, sized.1.contained rfl⟩

end LeanMiniViews.MiniView
