import LeanMiniViews.GridStorage
import LeanMiniViews.RowMajor
import Mathlib.Data.Set.Basic

/-!
`isSelectionRectangular` against the rectangle that the selection spans. The loop over the inside
of the rectangle leaves out its last row and its last column.
-/

namespace LeanMiniViews

/-! Sets of cells. -/

structure Rectangle where
  left : Nat
  top : Nat
  right : Nat
  bottom : Nat
deriving DecidableEq, Repr

namespace Rectangle

def cells (area : Rectangle) : Set (Nat × Nat) :=
  { cell | area.left ≤ cell.1 ∧ cell.1 ≤ area.right ∧ area.top ≤ cell.2 ∧ cell.2 ≤ area.bottom }

theorem mem_cells {area : Rectangle} {cell : Nat × Nat} : cell ∈ area.cells ↔
    area.left ≤ cell.1 ∧ cell.1 ≤ area.right ∧ area.top ≤ cell.2 ∧ cell.2 ≤ area.bottom :=
  Iff.rfl

/-- The smallest and the largest column and row of a set of cells. -/
structure Spans (area : Rectangle) (marked : Set (Nat × Nat)) : Prop where
  inside : marked ⊆ area.cells
  left : ∃ y, (area.left, y) ∈ marked
  top : ∃ x, (x, area.top) ∈ marked
  right : ∃ y, (area.right, y) ∈ marked
  bottom : ∃ x, (x, area.bottom) ∈ marked

/-- Two opposite corners are there, nothing is outside, and no cell is missing in front of the
last row and the last column. -/
structure Passes (area : Rectangle) (marked : Set (Nat × Nat)) : Prop where
  topLeft : (area.left, area.top) ∈ marked
  bottomRight : (area.right, area.bottom) ∈ marked
  inside : marked ⊆ area.cells
  filled : ∀ x y, area.left ≤ x → x < area.right → area.top ≤ y → y < area.bottom →
    (x, y) ∈ marked

end Rectangle

def IsRectangular (marked : Set (Nat × Nat)) : Prop :=
  ∃ area : Rectangle, area.Spans marked ∧ marked = area.cells

/-- What is missing is in the last row or the last column, and not at their ends. -/
def HasGapAtEdge (marked : Set (Nat × Nat)) : Prop :=
  ∃ area : Rectangle, area.Passes marked ∧ marked ≠ area.cells

section Sets

variable {marked : Set (Nat × Nat)} {area other : Rectangle}

theorem Rectangle.Passes.spans (passes : area.Passes marked) : area.Spans marked where
  inside := passes.inside
  left := ⟨_, passes.topLeft⟩
  top := ⟨_, passes.topLeft⟩
  right := ⟨_, passes.bottomRight⟩
  bottom := ⟨_, passes.bottomRight⟩

theorem Rectangle.Spans.unique (spans : area.Spans marked) (others : other.Spans marked) :
    area = other := by
  have bound {first second : Rectangle} (spans : first.Spans marked)
      (others : second.Spans marked) : first.left ≤ second.left ∧ first.top ≤ second.top ∧
        second.right ≤ first.right ∧ second.bottom ≤ first.bottom := by
    obtain ⟨_, left⟩ := others.left
    obtain ⟨_, top⟩ := others.top
    obtain ⟨_, right⟩ := others.right
    obtain ⟨_, bottom⟩ := others.bottom
    exact ⟨(spans.inside left).1, (spans.inside top).2.2.1, (spans.inside right).2.1,
      (spans.inside bottom).2.2.2⟩
  have lower := bound spans others
  have upper := bound others spans
  cases area
  cases other
  simp only [Rectangle.mk.injEq]
  dsimp only at lower upper
  omega

theorem Rectangle.passes_of_rectangular (spans : area.Spans marked)
    (whole : marked = area.cells) : area.Passes marked := by
  obtain ⟨y, left⟩ := spans.left
  obtain ⟨x, top⟩ := spans.top
  have across := spans.inside left
  have down := spans.inside top
  rw [mem_cells] at across down
  refine ⟨?_, ?_, spans.inside, ?_⟩
  · rw [whole, mem_cells]
    omega
  · rw [whole, mem_cells]
    omega
  · intro x y _ _ _ _
    rw [whole, mem_cells]
    omega

theorem passes_iff_rectangular :
    ((∃ area : Rectangle, area.Passes marked) ↔ IsRectangular marked) ↔
      ¬ HasGapAtEdge marked := by
  constructor
  · rintro same ⟨area, passes, gap⟩
    obtain ⟨other, spans, whole⟩ := same.mp ⟨area, passes⟩
    exact gap (passes.spans.unique spans ▸ whole)
  · intro noGap
    constructor
    · rintro ⟨area, passes⟩
      refine ⟨area, passes.spans, ?_⟩
      by_contra gap
      exact noGap ⟨area, passes, gap⟩
    · rintro ⟨area, spans, whole⟩
      exact ⟨area, area.passes_of_rectangular spans whole⟩

end Sets

namespace GridView

def selection (grid : GridView) : Set (Nat × Nat) :=
  { cell | grid.inGrid cell.1 cell.2 = true ∧ grid.isMarked cell.1 cell.2 = some true }

theorem mem_rowMajor {left top right bottom : Nat} {cell : Nat × Nat} :
    cell ∈ rowMajor left top right bottom ↔
      (left ≤ cell.1 ∧ cell.1 < right) ∧ top ≤ cell.2 ∧ cell.2 < bottom := by
  rw [rowMajor, ← RowMajor.cells, RowMajor.mem_cells, List.mem_range'_1, List.mem_range'_1]
  omega

theorem rowMajor_pairwise (left top right bottom : Nat) :
    (rowMajor left top right bottom).Pairwise RowMajor.Precedes :=
  RowMajor.cells_pairwise List.pairwise_lt_range' List.pairwise_lt_range'

section Selection

variable {grid : GridView} {sheet : Sheet}

def mark (grid : GridView) (sheet : Sheet) (cell : Nat × Nat) : Bool :=
  grid.isFocused cell.1 cell.2 || (sheet.cell cell.1 cell.2).selected

theorem Represents.isMarked_eq (represents : grid.Represents sheet) {cell : Nat × Nat}
    (member : cell ∈ rowMajor 0 0 sheet.columns sheet.rows) :
    grid.inGrid cell.1 cell.2 = true ∧
      grid.isMarked cell.1 cell.2 = some (grid.mark sheet cell) := by
  rw [mem_rowMajor] at member
  obtain ⟨inside, found⟩ := represents.item_eq member.1.2 member.2.2
  refine ⟨inside, ?_⟩
  rw [isMarked, mark, item, if_pos inside, found, Option.map_some]
  cases grid.isFocused cell.1 cell.2 with
  | true => rfl
  | false => rfl

theorem Represents.mem_selection (represents : grid.Represents sheet) {cell : Nat × Nat} :
    cell ∈ grid.selection ↔
      cell ∈ rowMajor 0 0 sheet.columns sheet.rows ∧ grid.mark sheet cell = true := by
  constructor
  · rintro ⟨inside, marked⟩
    have member : cell ∈ rowMajor 0 0 sheet.columns sheet.rows := by
      simp only [inGrid, represents.numRows, represents.numColumns, Bool.and_eq_true,
        decide_eq_true_eq] at inside
      rw [mem_rowMajor]
      omega
    rw [(represents.isMarked_eq member).2, Option.some.injEq] at marked
    exact ⟨member, marked⟩
  · rintro ⟨member, marked⟩
    obtain ⟨inside, found⟩ := represents.isMarked_eq member
    exact ⟨inside, found.trans (congrArg some marked)⟩

theorem Represents.corners (represents : grid.Represents sheet) {area : Rectangle}
    (passes : area.Passes grid.selection) {topLeft bottomRight : Nat × Nat}
    (first : (rowMajor 0 0 sheet.columns sheet.rows).find? (grid.mark sheet) = some topLeft)
    (last : (rowMajor 0 0 sheet.columns sheet.rows).reverse.find? (grid.mark sheet) =
      some bottomRight) :
    topLeft = (area.left, area.top) ∧ bottomRight = (area.right, area.bottom) := by
  have sorted := rowMajor_pairwise 0 0 sheet.columns sheet.rows
  have start := represents.mem_selection.mp passes.topLeft
  have stop := represents.mem_selection.mp passes.bottomRight
  have firstInside := passes.inside (represents.mem_selection.mpr
    ⟨List.mem_of_find?_eq_some first, List.find?_some first⟩)
  have lastInside := passes.inside (represents.mem_selection.mpr
    ⟨List.mem_reverse.mp (List.mem_of_find?_eq_some last), List.find?_some last⟩)
  rw [Rectangle.mem_cells] at firstInside lastInside
  constructor
  · obtain same | before := RowMajor.find?_first sorted first _ start.1 start.2
    · exact same.symm
    · rw [RowMajor.Precedes] at before
      dsimp only at before
      omega
  · obtain same | before := RowMajor.find?_first (List.pairwise_reverse.mpr sorted) last _
      (List.mem_reverse.mpr stop.1) stop.2
    · exact same.symm
    · rw [RowMajor.Precedes] at before
      dsimp only at before
      omega

theorem Represents.passes_iff (represents : grid.Represents sheet) {topLeft bottomRight : Nat × Nat}
    (first : (rowMajor 0 0 sheet.columns sheet.rows).find? (grid.mark sheet) = some topLeft)
    (last : (rowMajor 0 0 sheet.columns sheet.rows).reverse.find? (grid.mark sheet) =
      some bottomRight) :
    (∃ area : Rectangle, area.Passes grid.selection) ↔
      topLeft.1 ≤ bottomRight.1 ∧
      (∀ cell ∈ rowMajor 0 0 sheet.columns sheet.rows, grid.mark sheet cell = true →
        (topLeft.1 ≤ cell.1 ∧ cell.1 ≤ bottomRight.1) ∧
          topLeft.2 ≤ cell.2 ∧ cell.2 ≤ bottomRight.2) ∧
      ∀ cell ∈ rowMajor topLeft.1 topLeft.2 bottomRight.1 bottomRight.2,
        grid.mark sheet cell = true := by
  constructor
  · rintro ⟨area, passes⟩
    obtain ⟨rfl, rfl⟩ := represents.corners passes first last
    have ordered := passes.inside passes.topLeft
    rw [Rectangle.mem_cells] at ordered
    refine ⟨ordered.2.1, ?_, ?_⟩
    · intro cell member marked
      have within := passes.inside (represents.mem_selection.mpr ⟨member, marked⟩)
      rw [Rectangle.mem_cells] at within
      exact ⟨⟨within.1, within.2.1⟩, within.2.2⟩
    · intro cell member
      rw [mem_rowMajor] at member
      have marked := passes.filled cell.1 cell.2 member.1.1 member.1.2 member.2.1 member.2.2
      exact (represents.mem_selection.mp marked).2
  · rintro ⟨_, inside, filled⟩
    have start : topLeft ∈ grid.selection := represents.mem_selection.mpr
      ⟨List.mem_of_find?_eq_some first, List.find?_some first⟩
    have stop : bottomRight ∈ grid.selection := represents.mem_selection.mpr
      ⟨List.mem_reverse.mp (List.mem_of_find?_eq_some last), List.find?_some last⟩
    refine ⟨⟨topLeft.1, topLeft.2, bottomRight.1, bottomRight.2⟩, start, stop, ?_, ?_⟩
    · intro cell member
      obtain ⟨inCells, marked⟩ := represents.mem_selection.mp member
      obtain ⟨across, down⟩ := inside cell inCells marked
      exact ⟨across.1, across.2, down⟩
    · intro x y left right above below
      have member : (x, y) ∈ rowMajor topLeft.1 topLeft.2 bottomRight.1 bottomRight.2 :=
        mem_rowMajor.mpr ⟨⟨left, right⟩, above, below⟩
      have edge := (mem_rowMajor.mp (represents.mem_selection.mp stop).1)
      have inCells : (x, y) ∈ rowMajor 0 0 sheet.columns sheet.rows := by
        rw [mem_rowMajor]
        dsimp only at right below ⊢
        omega
      exact represents.mem_selection.mpr ⟨inCells, filled (x, y) member⟩

theorem Represents.find_eq (represents : grid.Represents sheet)
    (test : Bool → Nat × Nat → Bool) {cells : List (Nat × Nat)}
    (inside : ∀ cell ∈ cells, cell ∈ rowMajor 0 0 sheet.columns sheet.rows) :
    Loops.find (fun cell => (grid.isMarked cell.1 cell.2).map fun found => test found cell)
      cells = some (cells.find? fun cell => test (grid.mark sheet cell) cell) := by
  apply Loops.find_eq
  intro cell member
  rw [(represents.isMarked_eq (inside cell member)).2, Option.map_some]

theorem strayed_iff {cells : List (Nat × Nat)} {marked : Nat × Nat → Bool}
    {topLeft bottomRight : Nat × Nat} :
    (cells.find? fun cell => marked cell &&
        (cell.1 < topLeft.1 || cell.1 > bottomRight.1 || cell.2 < topLeft.2 ||
          cell.2 > bottomRight.2)).isSome = true ↔
      ¬ ∀ cell ∈ cells, marked cell = true →
        (topLeft.1 ≤ cell.1 ∧ cell.1 ≤ bottomRight.1) ∧
          topLeft.2 ≤ cell.2 ∧ cell.2 ≤ bottomRight.2 := by
  simp only [List.find?_isSome, Bool.and_eq_true, Bool.or_eq_true, decide_eq_true_eq]
  constructor
  · rintro ⟨cell, member, isMarked, outside⟩ inside
    have within := inside cell member isMarked
    omega
  · intro strays
    by_contra none
    refine strays fun cell member isMarked => ?_
    by_contra outside
    exact none ⟨cell, member, isMarked, by omega⟩

theorem Represents.isSelectionRectangular_eq (represents : grid.Represents sheet) :
    ∃ result, grid.isSelectionRectangular = some result ∧
      (result = true ↔ ∃ area : Rectangle, area.Passes grid.selection) := by
  have columns : grid.numColumns.toNat = sheet.columns := by
    rw [represents.numColumns, Int.toNat_natCast]
  have rows : grid.numRows.toNat = sheet.rows := by rw [represents.numRows, Int.toNat_natCast]
  have tested (cell : Nat × Nat) (member : cell ∈ rowMajor 0 0 sheet.columns sheet.rows) :
      grid.isMarked cell.1 cell.2 = some (grid.mark sheet cell) :=
    (represents.isMarked_eq member).2
  have forward := Loops.find_eq tested
  have backward := Loops.find_eq fun cell member => tested cell (List.mem_reverse.mp member)
  rw [isSelectionRectangular]
  dsimp only
  rw [columns, rows, forward, backward, Option.bind_some, Option.bind_some]
  cases first : (rowMajor 0 0 sheet.columns sheet.rows).find? (grid.mark sheet) with
  | none =>
      refine ⟨false, rfl, iff_of_false Bool.false_ne_true ?_⟩
      rintro ⟨area, passes⟩
      obtain ⟨member, marked⟩ := represents.mem_selection.mp passes.topLeft
      exact List.find?_eq_none.mp first _ member marked
  | some topLeft =>
      obtain ⟨bottomRight, last⟩ : ∃ bottomRight,
          (rowMajor 0 0 sheet.columns sheet.rows).reverse.find? (grid.mark sheet) =
            some bottomRight := by
        rw [← Option.isSome_iff_exists, List.find?_isSome]
        exact ⟨topLeft, List.mem_reverse.mpr (List.mem_of_find?_eq_some first),
          List.find?_some first⟩
      have edge : bottomRight ∈ rowMajor 0 0 sheet.columns sheet.rows :=
        List.mem_reverse.mp (List.mem_of_find?_eq_some last)
      have within (cell : Nat × Nat)
          (member : cell ∈ rowMajor topLeft.1 topLeft.2 bottomRight.1 bottomRight.2) :
          cell ∈ rowMajor 0 0 sheet.columns sheet.rows := by
        rw [mem_rowMajor] at member edge ⊢
        omega
      rw [last, represents.passes_iff first last]
      dsimp only
      by_cases backwards : bottomRight.1 < topLeft.1
      · rw [if_pos backwards]
        exact ⟨false, rfl, iff_of_false Bool.false_ne_true fun passes => by omega⟩
      · rw [if_neg backwards, represents.find_eq (fun found cell => found && _) fun _ => id,
          Option.bind_some, represents.find_eq (fun found _ => !found) within, Option.map_some]
        split
        · rename_i strays
          exact ⟨false, rfl, iff_of_false Bool.false_ne_true fun passes =>
            strayed_iff.mp strays passes.2.1⟩
        · rename_i strays
          refine ⟨_, rfl, ?_⟩
          rw [strayed_iff, not_not] at strays
          simp only [Option.isNone_iff_eq_none, List.find?_eq_none, Bool.not_eq_true',
            Bool.not_eq_false]
          exact ⟨fun filled => ⟨by omega, strays, filled⟩, fun passes => passes.2.2⟩

theorem isSelectionRectangular_iff (represents : grid.Represents sheet) :
    ∃ result, grid.isSelectionRectangular = some result ∧
      ((result = true ↔ IsRectangular grid.selection) ↔ ¬ HasGapAtEdge grid.selection) := by
  obtain ⟨result, tested, passes⟩ := represents.isSelectionRectangular_eq
  exact ⟨result, tested, by rw [passes, passes_iff_rectangular]⟩

end Selection

def diagonalCell (x y : Nat) : GridControlItem := GridControlItem.blank.setSelected (x = y)

def diagonal : GridView := ofTable 2 2 diagonalCell

theorem diagonal_represents : diagonal.Represents ⟨2, 2, diagonalCell⟩ :=
  ofTable_represents (by decide) (by decide) diagonalCell

theorem isSelectionRectangular_iff_diagonal :
    ∃ result, diagonal.isSelectionRectangular = some result ∧
      ((result = true ↔ IsRectangular diagonal.selection) ↔ ¬ HasGapAtEdge diagonal.selection) :=
  isSelectionRectangular_iff diagonal_represents

/-- Two cells on a diagonal are taken for a rectangle. -/
theorem isSelectionRectangular_misses_diagonal :
    ¬ ∀ (grid : GridView) (sheet : Sheet), grid.Represents sheet →
      ∃ result, grid.isSelectionRectangular = some result ∧
        (result = true ↔ IsRectangular grid.selection) := by
  intro claim
  obtain ⟨result, tested, rectangular⟩ := claim diagonal _ diagonal_represents
  have passes : diagonal.isSelectionRectangular = some true := by decide
  rw [passes, Option.some.injEq] at tested
  obtain ⟨area, -, whole⟩ := rectangular.mp tested.symm
  have first : (0, 0) ∈ area.cells := whole ▸ ⟨by decide, by decide⟩
  have last : (1, 1) ∈ area.cells := whole ▸ ⟨by decide, by decide⟩
  have between : (1, 0) ∈ diagonal.selection := by
    rw [whole]
    exact ⟨by have := first.1; omega, last.2.1, first.2.2.1, by have := last.2.2.2; omega⟩
  exact absurd between.2 (by decide)

end GridView

end LeanMiniViews
