import LeanMiniViews.GridStorage
import LeanMiniViews.GridFocus
import Mathlib.Data.Int.ConditionallyCompleteOrder
import Mathlib.Order.ConditionallyCompleteLattice.Basic
import Mathlib.Order.Interval.Set.UnorderedInterval

/-!
The mouse on a grid, from the press to the release: the handlers against what they make of a set
of selected cells. No run of them leaves the memory of the cells.
-/

namespace LeanMiniViews

namespace GridView

/-- `buttonHeld` is `MK_LBUTTON` in the message. -/
def mouseMove (grid : GridView) (virtual : GridOverrides) (click : Click) (buttonHeld : Bool)
    (answers : EditAnswers) : Option GridView :=
  if grid.lButtonIsDown ∧ grid.focusedX ≠ -1 ∧ grid.focusedY ≠ -1 ∧ buttonHeld then
    match if grid.editing then none else click.itemAt with
    | some (dragMoveX, dragMoveY) =>
        (if !click.control then grid.deselectAll answers else some grid).bind fun grid =>
          grid.selectSquare virtual grid.focusedX grid.focusedY dragMoveX dragMoveY
    | none => some grid
  else some grid

def mouseHover (grid : GridView) (virtual : GridOverrides) (click : Click)
    (answers : EditAnswers) : Option GridView :=
  if !grid.editing ∧ grid.lButtonIsDown ∧ grid.focusedX ≠ -1 ∧ grid.focusedY ≠ -1 then
    grid.dragSelectTo virtual click answers
  else some grid

end GridView

inductive MouseInput where
  | lButtonDown (click : GridView.Click) (answers : GridView.EditAnswers)
  | mouseMove (click : GridView.Click) (buttonHeld : Bool) (answers : GridView.EditAnswers)
  | mouseHover (click : GridView.Click) (answers : GridView.EditAnswers)
  | lButtonUp (click : GridView.Click) (answers : GridView.EditAnswers)
deriving DecidableEq, Repr

def GridView.mouse (virtual : GridOverrides) (grid : GridView) : MouseInput → Option GridView
  | .lButtonDown click answers => grid.lButtonDown virtual click answers
  | .mouseMove click buttonHeld answers => grid.mouseMove virtual click buttonHeld answers
  | .mouseHover click answers => grid.mouseHover virtual click answers
  | .lButtonUp click answers => grid.lButtonUp virtual click answers

/-! What the handlers mean. -/

/-- A grid of a size, as far as the mouse is concerned. -/
structure Pointing where
  focus : Int × Int
  selected : Set (Int × Int)
  held : Bool

namespace Pointing

def cells (rows columns : Nat) : Set (Int × Int) :=
  { cell | 0 ≤ cell.1 ∧ cell.1 < columns ∧ 0 ≤ cell.2 ∧ cell.2 < rows }

instance (rows columns : Nat) (cell : Int × Int) : Decidable (cell ∈ cells rows columns) :=
  inferInstanceAs (Decidable (_ ∧ _ ∧ _ ∧ _))

theorem exists_of_mem_cells {rows columns : Nat} {cell : Int × Int}
    (inside : cell ∈ cells rows columns) :
    ∃ x y : Nat, cell = ((x : Int), (y : Int)) ∧ x < columns ∧ y < rows := by
  obtain ⟨x, y⟩ := cell
  obtain ⟨left, right, top, bottom⟩ := inside
  obtain ⟨x, rfl⟩ := Int.eq_ofNat_of_zero_le left
  obtain ⟨y, rfl⟩ := Int.eq_ofNat_of_zero_le top
  exact ⟨x, y, rfl, Int.ofNat_lt.mp right, Int.ofNat_lt.mp bottom⟩

def deselect (pointing : Pointing) : Pointing := { pointing with selected := ∅ }

def select (pointing : Pointing) (more : Set (Int × Int)) : Pointing :=
  { pointing with selected := pointing.selected ∪ more }

section Meaning

variable (rows columns : Nat) (virtual : GridOverrides)

def focusOn (pointing : Pointing) (cell : Int × Int) : Pointing :=
  if cell ∈ cells rows columns ∧ virtual.allowSel cell.1 cell.2 ∧ cell ≠ pointing.focus then
    { pointing with focus := cell, selected := insert cell pointing.selected }
  else pointing

/-- From the focus, or from the first cell of the grid if there is none, to the cell. -/
def reach (pointing : Pointing) (cell : Int × Int) : Set (Int × Int) :=
  if cell ∈ cells rows columns then
    { other ∈ Set.uIcc (if pointing.focus ∈ cells rows columns then pointing.focus else 0) cell |
      virtual.allowSel other.1 other.2 = true }
  else ∅

/-- The rectangle between the focus and the cell, as a descendant adjusts it. -/
def square (pointing : Pointing) (cell : Int × Int) : Set (Int × Int) :=
  if pointing.focus ∈ cells rows columns ∧ cell ∈ cells rows columns then
    let topLeft := pointing.focus ⊓ cell
    let bottomRight := pointing.focus ⊔ cell
    if virtual.allowSelSquare topLeft.1 bottomRight.1 topLeft.2 bottomRight.2 then
      let (left, right, top, bottom) :=
        virtual.adjustSel (topLeft.1, bottomRight.1, topLeft.2, bottomRight.2)
      Set.Icc (left, top) (right, bottom)
    else ∅
  else ∅

def isOutside (click : GridView.Click) : Bool :=
  decide (0 < rows ∧ 0 < columns) && click.contentHit.any GridView.ContentHit.isOutside

/-- The cell at the edge of the grid that a point outside of it belongs to. -/
def edgeCell (click : GridView.Click) : Option (Int × Int) :=
  if isOutside rows columns click then
    click.contentHit.bind fun hit =>
      let column :=
        if hit.outsideLeft then some 0
        else if hit.outsideRight then some (columns - 1 : Int)
        else click.columnAt
      let row :=
        if hit.outsideTop then some 0
        else if hit.outsideBottom then some (rows - 1 : Int)
        else click.rowAt
      column.bind fun x => row.map fun y => (x, y)
  else none

open scoped Classical in
noncomputable def pressOn (pointing : Pointing) (click : GridView.Click) (cell : Int × Int) :
    Pointing :=
  match click.shift, click.control with
  | true, true => pointing.select (pointing.reach rows columns virtual cell)
  | true, false => pointing.deselect.select (pointing.reach rows columns virtual cell)
  | false, true =>
      if cell ∈ pointing.selected then
        if cell = pointing.focus then pointing
        else { pointing with selected := pointing.selected \ {cell} }
      else pointing.focusOn rows columns virtual cell
  | false, false => pointing.deselect.focusOn rows columns virtual cell

noncomputable def press (pointing : Pointing) (click : GridView.Click) : Pointing :=
  match click.itemAt with
  | some cell =>
      if virtual.allowSel cell.1 cell.2 then
        { pointing.pressOn rows columns virtual click cell with held := true }
      else pointing
  | none =>
      let cleared : Pointing := { pointing.deselect with focus := (-1, -1) }
      match edgeCell rows columns click with
      | some cell => { cleared.focusOn rows columns virtual cell with held := true }
      | none => { cleared with held := true }

/-- Without the control key the squares drawn before are given up. -/
def kept (pointing : Pointing) (click : GridView.Click) : Pointing :=
  if click.control then pointing else pointing.deselect

def drawTo (pointing : Pointing) (cell : Int × Int) : Pointing :=
  pointing.select (pointing.square rows columns virtual cell)

def dragTo (pointing : Pointing) (click : GridView.Click) : Pointing :=
  if isOutside rows columns click then
    match edgeCell rows columns click with
    | some cell => (pointing.kept click).drawTo rows columns virtual cell
    | none => pointing.kept click
  else
    match click.itemAt with
    | some cell => (pointing.kept click).drawTo rows columns virtual cell
    | none => pointing

theorem dragTo_held (pointing : Pointing) (held : Bool) (click : GridView.Click) :
    dragTo rows columns virtual { pointing with held := held } click =
      { pointing.dragTo rows columns virtual click with held := held } := by
  have keeps : kept { pointing with held := held } click =
      { pointing.kept click with held := held } := by
    rw [kept, kept]
    split <;> rfl
  rw [dragTo, dragTo, keeps]
  split
  · split <;> rfl
  · split <;> rfl

def Drags (pointing : Pointing) : Prop :=
  pointing.held = true ∧ pointing.focus.1 ≠ -1 ∧ pointing.focus.2 ≠ -1

instance (pointing : Pointing) : Decidable pointing.Drags :=
  inferInstanceAs (Decidable (_ ∧ _ ∧ _))

/-- A release without a focus leaves the button held. -/
noncomputable def step (pointing : Pointing) : MouseInput → Pointing
  | .lButtonDown click _ => pointing.press rows columns virtual click
  | .mouseMove click buttonHeld _ =>
      if pointing.Drags ∧ buttonHeld then
        match click.itemAt with
        | some cell => (pointing.kept click).drawTo rows columns virtual cell
        | none => pointing
      else pointing
  | .mouseHover click _ =>
      if pointing.Drags then pointing.dragTo rows columns virtual click else pointing
  | .lButtonUp click _ =>
      if pointing.Drags then
        { pointing.dragTo rows columns virtual click with held := false }
      else pointing

end Meaning

end Pointing

/-- What a descendant makes of a rectangle of cells is made of cells. -/
def GridOverrides.AdjustsInside (virtual : GridOverrides) (rows columns : Nat) : Prop :=
  ∀ left right top bottom : Int, virtual.allowSelSquare left right top bottom = true →
    (left, top) ∈ Pointing.cells rows columns → (right, bottom) ∈ Pointing.cells rows columns →
    left ≤ right → top ≤ bottom →
      let (newLeft, newRight, newTop, newBottom) := virtual.adjustSel (left, right, top, bottom)
      Set.Icc (newLeft, newTop) (newRight, newBottom) ⊆ Pointing.cells rows columns

namespace GridView

/-! The loops over the cells. -/

section Loops

variable {grid : GridView} {sheet : Sheet}

theorem setSelected_tabulate {rows columns x y : Nat} {cell : Nat → Nat → GridControlItem}
    (inColumns : x < columns) (inRows : y < rows) (selected : Bool) :
    setSelected (some (Tables.tabulate rows columns cell)) x y selected =
      some (some (Tables.tabulate rows columns
        (Tables.put cell x y ((cell x y).setSelected selected)))) := by
  rw [setSelected, Tables.read_tabulate inColumns inRows, Option.bind_some,
    Tables.write_tabulate inColumns inRows]

/-- A loop over a rectangle of cells, which may be empty. -/
theorem Represents.each_eq (represents : grid.Represents sheet) {left top width height : Nat}
    {change : Nat → Nat → GridControlItem → GridControlItem}
    {body : Nat → Nat → Option (List (List GridControlItem)) →
      Option (Option (List (List GridControlItem)))}
    (inside : 0 < width → 0 < height → left + width ≤ sheet.columns ∧ top + height ≤ sheet.rows)
    (changes : ∀ x y before, left + x < sheet.columns → top + y < sheet.rows →
      body x y (some (Tables.tabulate sheet.rows sheet.columns before)) =
        some (some (Tables.tabulate sheet.rows sheet.columns
          (Tables.put before (left + x) (top + y) (change (left + x) (top + y)
            (before (left + x) (top + y))))))) :
    ∃ gridItems, Loops.each height width body grid.gridItems = some gridItems ∧
      { grid with gridItems := gridItems }.Represents { sheet with
        cell := Tables.changed sheet.cell left top width change 0 height } := by
  by_cases filled : 0 < width ∧ 0 < height
  · obtain ⟨inColumns, inRows⟩ := inside filled.1 filled.2
    have stored := represents.stored (by omega) (by omega)
    rw [stored, Tables.each_change fun x y before here there =>
      changes x y before (by omega) (by omega)]
    refine ⟨_, rfl, represents.numRows, represents.numColumns, fun _ _ => rfl, ?_⟩
    intro empty
    exact absurd ⟨by dsimp only; omega, by dsimp only; omega⟩ empty
  · have skipped : Loops.each height width body grid.gridItems = some grid.gridItems := by
      by_cases noColumn : width = 0
      · rw [noColumn, Loops.each_zero]
      · have noRow : height = 0 := by omega
        rw [noRow]
        rfl
    refine ⟨grid.gridItems, skipped, represents.congr ?_⟩
    intro x y _ _
    rw [Tables.changed, if_neg (by omega)]

theorem Represents.selectCells_eq (represents : grid.Represents sheet)
    (allowed : Int → Int → Bool) {left top right bottom : Int}
    (inside : Set.Icc (left, top) (right, bottom) ⊆ Pointing.cells sheet.rows sheet.columns) :
    ∃ gridItems cell, grid.selectCells allowed left top right bottom =
        some { grid with gridItems := gridItems } ∧
      { grid with gridItems := gridItems }.Represents { sheet with cell := cell } ∧
      ∀ x y : Nat, cell x y =
        if ((x : Int), (y : Int)) ∈ Set.Icc (left, top) (right, bottom) ∧ allowed x y then
          (sheet.cell x y).setSelected true
        else sheet.cell x y := by
  have member {x y : Int} : (x, y) ∈ Set.Icc (left, top) (right, bottom) ↔
      (left ≤ x ∧ top ≤ y) ∧ x ≤ right ∧ y ≤ bottom := Iff.rfl
  by_cases filled : left ≤ right ∧ top ≤ bottom
  · have first : (left, top) ∈ Pointing.cells sheet.rows sheet.columns :=
      inside (member.mpr ⟨⟨le_rfl, le_rfl⟩, filled⟩)
    have last : (right, bottom) ∈ Pointing.cells sheet.rows sheet.columns :=
      inside (member.mpr ⟨filled, le_rfl, le_rfl⟩)
    obtain ⟨fromLeft, -, fromTop, -⟩ := first
    obtain ⟨-, toRight, -, toBottom⟩ := last
    dsimp only at fromLeft fromTop toRight toBottom
    obtain ⟨left, rfl⟩ := Int.eq_ofNat_of_zero_le fromLeft
    obtain ⟨top, rfl⟩ := Int.eq_ofNat_of_zero_le fromTop
    let change (x y : Nat) (item : GridControlItem) : GridControlItem :=
      if allowed x y then item.setSelected true else item
    have selected := @Represents.each_eq grid sheet represents left top
      (right - left + 1).toNat (bottom - top + 1).toNat change
      (fun x y gridItems =>
        if allowed (left + x) (top + y) then setSelected gridItems (left + x) (top + y) true
        else some gridItems) (by omega) ?_
    · obtain ⟨gridItems, looped, holds⟩ := selected
      refine ⟨gridItems, _, ?_, holds, ?_⟩
      · rw [selectCells, looped, Option.map_some]
      · intro x y
        rw [Tables.changed]
        by_cases within : ((left : Int) ≤ x ∧ (top : Int) ≤ y) ∧ (x : Int) ≤ right ∧
            (y : Int) ≤ bottom
        · rw [if_pos (by omega)]
          exact if_congr (by simp [member, within]) rfl rfl
        · rw [if_neg (by omega), if_neg fun both => within (member.mp both.1)]
    · intro x y before inColumns inRows
      have across : (left : Int) + x = ((left + x : Nat) : Int) := by push_cast; rfl
      have down : (top : Int) + y = ((top + y : Nat) : Int) := by push_cast; rfl
      dsimp only [change]
      rw [across, down]
      cases allowed ((left + x : Nat) : Int) ((top + y : Nat) : Int) with
      | true =>
          simp only [if_true]
          exact setSelected_tabulate inColumns inRows true
      | false =>
          simp only [Bool.false_eq_true, if_false]
          congr 2
          apply Tables.tabulate_congr
          intro otherX otherY _ _
          rw [Tables.put]
          split
          · rename_i same
            rw [same.1, same.2]
          · rfl
  · have unchanged : { sheet with cell := fun x y => sheet.cell x y } = sheet := rfl
    have empty : (right - left + 1).toNat = 0 ∨ (bottom - top + 1).toNat = 0 := by omega
    have skipped : grid.selectCells allowed left top right bottom = some grid := by
      rw [selectCells]
      rcases empty with noColumn | noRow
      · rw [noColumn, Loops.each_zero, Option.map_some]
      · rw [noRow]
        rfl
    refine ⟨grid.gridItems, sheet.cell, skipped, represents, ?_⟩
    intro x y
    rw [if_neg]
    intro both
    have within := member.mp both.1
    omega

theorem Represents.deselectAll_eq (represents : grid.Represents sheet)
    (idle : grid.editing = false) (answers : EditAnswers) :
    ∃ gridItems, grid.deselectAll answers = some { grid with gridItems := gridItems } ∧
      { grid with gridItems := gridItems }.Represents
        { sheet with cell := fun x y => (sheet.cell x y).setSelected false } := by
  have rows : grid.numRows.toNat = sheet.rows := by rw [represents.numRows, Int.toNat_natCast]
  have columns : grid.numColumns.toNat = sheet.columns := by
    rw [represents.numColumns, Int.toNat_natCast]
  have skipped : grid.endEditing answers = some grid := by rw [endEditing, if_neg (by simp [idle])]
  have deselected := @Represents.each_eq grid sheet represents 0 0 sheet.columns sheet.rows
    (fun _ _ item => item.setSelected false)
    (fun x y gridItems => setSelected gridItems x y false) (by omega) ?_
  · obtain ⟨gridItems, looped, holds⟩ := deselected
    refine ⟨gridItems, ?_, holds.congr ?_⟩
    · rw [deselectAll, skipped, Option.bind_some, rows, columns, looped, Option.map_some]
    · intro x y inColumns inRows
      dsimp only at inColumns inRows ⊢
      rw [Tables.changed, if_pos (by omega)]
  · intro x y before inColumns inRows
    rw [Nat.zero_add] at inColumns inRows
    rw [Nat.zero_add, Nat.zero_add]
    exact setSelected_tabulate inColumns inRows false

end Loops

/-! The handlers. -/

/-- The cells are those of the sheet but for what is selected. -/
def Colored (sheet : Sheet) (selected : Set (Int × Int)) (cell : Nat → Nat → GridControlItem) :
    Prop :=
  ∀ x y, x < sheet.columns → y < sheet.rows →
    cell x y = (sheet.cell x y).setSelected (cell x y).selected ∧
      ((cell x y).selected = true ↔ ((x : Int), (y : Int)) ∈ selected)

structure Shows (grid : GridView) (sheet : Sheet) (pointing : Pointing) : Prop where
  colored : ∃ cell, grid.Represents { sheet with cell := cell } ∧
    Colored sheet pointing.selected cell
  within : pointing.selected ⊆ Pointing.cells sheet.rows sheet.columns
  focus : (grid.focusedX, grid.focusedY) = pointing.focus
  held : grid.lButtonIsDown = pointing.held
  idle : grid.editing = false
  null : grid.nullItem.selected = false

section Handlers

variable {grid : GridView} {sheet : Sheet} {pointing : Pointing} {virtual : GridOverrides}

theorem Shows.inGrid_iff (shows : grid.Shows sheet pointing) {x y : Int} :
    grid.inGrid x y = true ↔ (x, y) ∈ Pointing.cells sheet.rows sheet.columns := by
  obtain ⟨cell, represents, -⟩ := shows.colored
  have rows : grid.numRows = sheet.rows := represents.numRows
  have columns : grid.numColumns = sheet.columns := represents.numColumns
  simp only [inGrid, rows, columns, Bool.and_eq_true, decide_eq_true_eq]
  change _ ↔ 0 ≤ x ∧ x < sheet.columns ∧ 0 ≤ y ∧ y < sheet.rows
  omega

/-- The focus and the button change without the cells. -/
theorem Shows.point (shows : grid.Shows sheet pointing) (focusedX focusedY : Int) (held : Bool) :
    Shows { grid with focusedX := focusedX, focusedY := focusedY, lButtonIsDown := held } sheet
      { pointing with focus := (focusedX, focusedY), held := held } := by
  obtain ⟨cell, represents, colored⟩ := shows.colored
  refine ⟨⟨cell, ?_, colored⟩, shows.within, rfl, rfl, shows.idle, shows.null⟩
  exact ⟨represents.numRows, represents.numColumns, represents.stored, represents.null⟩

theorem Shows.hold (shows : grid.Shows sheet pointing) (held : Bool) :
    Shows { grid with lButtonIsDown := held } sheet { pointing with held := held } := by
  have pointed := shows.point grid.focusedX grid.focusedY held
  rw [shows.focus] at pointed
  exact pointed

theorem Shows.recolor (shows : grid.Shows sheet pointing)
    {gridItems : Option (List (List GridControlItem))} {cell : Nat → Nat → GridControlItem}
    {selected : Set (Int × Int)}
    (represents : { grid with gridItems := gridItems }.Represents { sheet with cell := cell })
    (colored : Colored sheet selected cell)
    (within : selected ⊆ Pointing.cells sheet.rows sheet.columns) :
    Shows { grid with gridItems := gridItems } sheet { pointing with selected := selected } :=
  ⟨⟨cell, represents, colored⟩, within, shows.focus, shows.held, shows.idle, shows.null⟩

theorem Shows.endEditing_eq (shows : grid.Shows sheet pointing) (answers : EditAnswers) :
    grid.endEditing answers = some grid := by
  rw [endEditing, if_neg (by simp [shows.idle])]

theorem Shows.deselectAll (shows : grid.Shows sheet pointing) (answers : EditAnswers) :
    ∃ next, grid.deselectAll answers = some next ∧
      next.Shows sheet pointing.deselect := by
  obtain ⟨cell, represents, colored⟩ := shows.colored
  obtain ⟨gridItems, deselected, holds⟩ := represents.deselectAll_eq shows.idle answers
  refine ⟨_, deselected, shows.recolor holds ?_ (Set.empty_subset _)⟩
  intro x y inColumns inRows
  obtain ⟨same, -⟩ := colored x y inColumns inRows
  refine ⟨?_, iff_of_false Bool.false_ne_true (Set.notMem_empty _)⟩
  dsimp only
  rw [same]
  rfl

theorem Shows.selectCells (shows : grid.Shows sheet pointing) (allowed : Int → Int → Bool)
    {left top right bottom : Int}
    (inside : Set.Icc (left, top) (right, bottom) ⊆ Pointing.cells sheet.rows sheet.columns) :
    ∃ next, grid.selectCells allowed left top right bottom = some next ∧
      next.Shows sheet (pointing.select
        { cell ∈ Set.Icc (left, top) (right, bottom) | allowed cell.1 cell.2 = true }) := by
  obtain ⟨cell, represents, colored⟩ := shows.colored
  obtain ⟨gridItems, painted, selected, holds, paints⟩ :=
    represents.selectCells_eq allowed inside
  refine ⟨_, selected, shows.recolor holds ?_ ?_⟩
  · intro x y inColumns inRows
    obtain ⟨same, marked⟩ := colored x y inColumns inRows
    rw [paints x y]
    split
    · rename_i chosen
      refine ⟨?_, iff_of_true rfl (Or.inr chosen)⟩
      dsimp only
      rw [same]
      rfl
    · rename_i spared
      refine ⟨same, marked.trans ⟨Or.inl, ?_⟩⟩
      rintro (before | chosen)
      · exact before
      · exact absurd chosen spared
  · exact Set.union_subset shows.within fun _ chosen => inside chosen.1

theorem uIcc_subset {rows columns : Nat} {first second : Int × Int}
    (inFirst : first ∈ Pointing.cells rows columns)
    (inSecond : second ∈ Pointing.cells rows columns) :
    Set.uIcc first second ⊆ Pointing.cells rows columns := by
  rintro ⟨x, y⟩ ⟨lower, upper⟩
  obtain ⟨firstLeft, firstRight, firstTop, firstBottom⟩ := inFirst
  obtain ⟨secondLeft, secondRight, secondTop, secondBottom⟩ := inSecond
  have across : min first.1 second.1 ≤ x ∧ x ≤ max first.1 second.1 := ⟨lower.1, upper.1⟩
  have down : min first.2 second.2 ≤ y ∧ y ≤ max first.2 second.2 := ⟨lower.2, upper.2⟩
  change 0 ≤ x ∧ x < columns ∧ 0 ≤ y ∧ y < rows
  omega

theorem Shows.selectSquareTo (shows : grid.Shows sheet pointing) (x y : Int) :
    ∃ next, grid.selectSquareTo virtual x y = some next ∧
      next.Shows sheet (pointing.select
        (pointing.reach sheet.rows sheet.columns virtual (x, y))) := by
  obtain ⟨focusX, focusY⟩ :
      pointing.focus.1 = grid.focusedX ∧ pointing.focus.2 = grid.focusedY := by
    rw [← shows.focus]
    exact ⟨rfl, rfl⟩
  rw [GridView.selectSquareTo, Pointing.reach]
  by_cases inside : (x, y) ∈ Pointing.cells sheet.rows sheet.columns
  · rw [if_pos (shows.inGrid_iff.mpr inside), if_pos inside]
    by_cases focused : pointing.focus ∈ Pointing.cells sheet.rows sheet.columns
    · have real : grid.inGrid grid.focusedX grid.focusedY = true := by
        rw [shows.inGrid_iff, shows.focus]
        exact focused
      rw [if_pos real, if_pos focused, ← focusX, ← focusY]
      exact shows.selectCells virtual.allowSel (uIcc_subset focused inside)
    · have unreal : ¬ grid.inGrid grid.focusedX grid.focusedY = true := by
        rw [shows.inGrid_iff, shows.focus]
        exact focused
      rw [if_neg unreal, if_neg focused]
      obtain ⟨left, right, top, bottom⟩ := inside
      have origin : (0 : Int × Int) ∈ Pointing.cells sheet.rows sheet.columns :=
        ⟨le_rfl, left.trans_lt right, le_rfl, top.trans_lt bottom⟩
      have spanned : Set.uIcc 0 (x, y) = Set.Icc ((0 : Int), (0 : Int)) (x, y) :=
        Set.uIcc_of_le ⟨left, top⟩
      have covered := uIcc_subset origin ⟨left, right, top, bottom⟩
      rw [spanned] at covered ⊢
      exact shows.selectCells virtual.allowSel covered
  · rw [if_neg fun inGrid => inside (shows.inGrid_iff.mp inGrid), if_neg inside, Pointing.select,
      Set.union_empty]
    exact ⟨grid, rfl, shows⟩

theorem Shows.selectSquare (shows : grid.Shows sheet pointing)
    (adjusts : virtual.AdjustsInside sheet.rows sheet.columns) (x y : Int) :
    ∃ next, grid.selectSquare virtual grid.focusedX grid.focusedY x y = some next ∧
      next.Shows sheet (pointing.drawTo sheet.rows sheet.columns virtual (x, y)) := by
  obtain ⟨focusX, focusY⟩ :
      pointing.focus.1 = grid.focusedX ∧ pointing.focus.2 = grid.focusedY := by
    rw [← shows.focus]
    exact ⟨rfl, rfl⟩
  have nothing : ∃ next, some grid = some next ∧ next.Shows sheet (pointing.select ∅) := by
    rw [Pointing.select, Set.union_empty]
    exact ⟨grid, rfl, shows⟩
  rw [GridView.selectSquare, Pointing.drawTo, Pointing.square]
  by_cases inside : pointing.focus ∈ Pointing.cells sheet.rows sheet.columns ∧
      (x, y) ∈ Pointing.cells sheet.rows sheet.columns
  · have real : grid.inGrid grid.focusedX grid.focusedY = true ∧ grid.inGrid x y = true := by
      rw [shows.inGrid_iff, shows.inGrid_iff, shows.focus]
      exact inside
    have across : (if grid.focusedX > x then (x, grid.focusedX) else (grid.focusedX, x)) =
        (min grid.focusedX x, max grid.focusedX x) := by
      split
      · exact Prod.ext (by dsimp only; omega) (by dsimp only; omega)
      · exact Prod.ext (by dsimp only; omega) (by dsimp only; omega)
    have down : (if grid.focusedY > y then (y, grid.focusedY) else (grid.focusedY, y)) =
        (min grid.focusedY y, max grid.focusedY y) := by
      split
      · exact Prod.ext (by dsimp only; omega) (by dsimp only; omega)
      · exact Prod.ext (by dsimp only; omega) (by dsimp only; omega)
    have corners : (pointing.focus ⊓ (x, y) = (min grid.focusedX x, min grid.focusedY y)) ∧
        pointing.focus ⊔ (x, y) = (max grid.focusedX x, max grid.focusedY y) := by
      rw [← shows.focus]
      exact ⟨rfl, rfl⟩
    rw [if_pos real, if_pos inside, across, down, corners.1, corners.2]
    dsimp only
    split
    · rename_i allowed
      have covered := adjusts _ _ _ _ allowed
      obtain ⟨⟨focusLeft, focusRight, focusTop, focusBottom⟩, left, right, top, bottom⟩ := inside
      rw [focusX] at focusLeft focusRight
      rw [focusY] at focusTop focusBottom
      dsimp only at left right top bottom
      have selected := shows.selectCells (fun _ _ => true)
        (covered ⟨by dsimp only; omega, by dsimp only; omega, by dsimp only; omega,
          by dsimp only; omega⟩ ⟨by dsimp only; omega, by dsimp only; omega,
          by dsimp only; omega, by dsimp only; omega⟩ (by omega) (by omega))
      simpa only [Set.sep_true] using selected
    · exact nothing
  · have unreal : ¬ (grid.inGrid grid.focusedX grid.focusedY = true ∧ grid.inGrid x y = true) := by
      rw [shows.inGrid_iff, shows.inGrid_iff, shows.focus]
      exact inside
    rw [if_neg unreal, if_neg inside]
    exact nothing

theorem Shows.setSelected (shows : grid.Shows sheet pointing) {cell : Int × Int}
    (inside : cell ∈ Pointing.cells sheet.rows sheet.columns) (selected : Bool) :
    ∃ next, (grid.changeItem cell.1 cell.2 fun item => item.setSelected selected) = some next ∧
      next.Shows sheet { pointing with
        selected := if selected then insert cell pointing.selected
          else pointing.selected \ {cell} } := by
  obtain ⟨cells, represents, colored⟩ := shows.colored
  obtain ⟨x, y, rfl, inColumns, inRows⟩ := Pointing.exists_of_mem_cells inside
  obtain ⟨gridItems, changes, holds⟩ :=
    represents.changeCell_eq inColumns inRows fun item => item.setSelected selected
  refine ⟨{ grid with gridItems := gridItems }, changes, shows.recolor holds ?_ ?_⟩
  · intro otherX otherY inside below
    obtain ⟨same, marked⟩ := colored otherX otherY inside below
    dsimp only [Tables.put]
    by_cases here : otherX = x ∧ otherY = y
    · obtain ⟨rfl, rfl⟩ := here
      rw [if_pos ⟨rfl, rfl⟩, same]
      refine ⟨rfl, ?_⟩
      cases selected with
      | true => simp [GridControlItem.setSelected]
      | false => simp [GridControlItem.setSelected]
    · have elsewhere : ((otherX : Int), (otherY : Int)) ≠ ((x : Int), (y : Int)) := by
        rw [ne_eq, Prod.mk.injEq]
        omega
      rw [if_neg here, marked]
      refine ⟨same, ?_⟩
      cases selected with
      | true => exact (Set.mem_insert_iff.trans (or_iff_right elsewhere)).symm
      | false => exact (and_iff_left elsewhere).symm
  · cases selected with
    | true => exact Set.insert_subset inside shows.within
    | false => exact Set.sdiff_subset.trans shows.within

theorem Shows.item_eq (shows : grid.Shows sheet pointing) (x y : Int) :
    ∃ item, grid.item x y = some item ∧ (item.selected = true ↔ (x, y) ∈ pointing.selected) := by
  obtain ⟨cells, represents, colored⟩ := shows.colored
  rw [GridView.item]
  by_cases inside : (x, y) ∈ Pointing.cells sheet.rows sheet.columns
  · rw [if_pos (shows.inGrid_iff.mpr inside)]
    obtain ⟨x, y, same, inColumns, inRows⟩ := Pointing.exists_of_mem_cells inside
    obtain ⟨rfl, rfl⟩ := Prod.mk.inj same
    exact ⟨_, (represents.item_eq inColumns inRows).2, (colored x y inColumns inRows).2⟩
  · rw [if_neg fun inGrid => inside (shows.inGrid_iff.mp inGrid)]
    refine ⟨_, rfl, iff_of_false (by simp [shows.null]) ?_⟩
    exact fun member => inside (shows.within member)

theorem Shows.focusItem (shows : grid.Shows sheet pointing) (cell : Int × Int)
    (answers : EditAnswers) :
    ∃ next, grid.focusItem virtual cell.1 cell.2 answers = some next ∧
      next.Shows sheet (pointing.focusOn sheet.rows sheet.columns virtual cell) := by
  have stays : (cell.1 ≠ grid.focusedX ∨ cell.2 ≠ grid.focusedY) ↔ cell ≠ pointing.focus := by
    rw [← shows.focus, ne_eq, ne_eq, ne_eq, Prod.ext_iff, not_and_or]
  rw [GridView.focusItem, shows.endEditing_eq, Option.bind_some, Pointing.focusOn]
  by_cases inside : cell ∈ Pointing.cells sheet.rows sheet.columns
  · have inGrid := shows.inGrid_iff.mpr inside
    by_cases allowed : virtual.allowSel cell.1 cell.2 = true
    · rw [if_pos ⟨inGrid, allowed⟩]
      by_cases moves : cell ≠ pointing.focus
      · rw [if_pos (stays.mpr moves), if_pos ⟨inside, allowed, moves⟩]
        have pointed := shows.point cell.1 cell.2 grid.lButtonIsDown
        rw [shows.held] at pointed
        obtain ⟨next, changed, holds⟩ := pointed.setSelected inside true
        refine ⟨next, ?_, holds⟩
        rw [← shows.held] at changed
        exact changed
      · rw [if_neg fun moved => moves (stays.mp moved), if_neg fun all => moves all.2.2]
        exact ⟨grid, rfl, shows⟩
    · rw [if_neg fun both => allowed both.2, if_neg fun all => allowed all.2.1]
      exact ⟨grid, rfl, shows⟩
  · rw [if_neg fun both => inside (shows.inGrid_iff.mp both.1), if_neg fun all => inside all.1]
    exact ⟨grid, rfl, shows⟩

theorem Shows.clickCell (shows : grid.Shows sheet pointing) (click : Click) (cell : Int × Int)
    (answers : EditAnswers) :
    ∃ next, grid.clickCell virtual cell.1 cell.2 click answers = some next ∧
      next.Shows sheet (pointing.pressOn sheet.rows sheet.columns virtual click cell) := by
  obtain ⟨deselected, deselects, cleared⟩ := shows.deselectAll answers
  rw [GridView.clickCell, Pointing.pressOn]
  cases click.shift with
  | true =>
      cases click.control with
      | true => exact shows.selectSquareTo cell.1 cell.2
      | false =>
          simp only [Bool.and_false, Bool.false_eq_true, if_false, if_true]
          rw [deselects, Option.bind_some]
          exact cleared.selectSquareTo cell.1 cell.2
  | false =>
      cases click.control with
      | true =>
          obtain ⟨item, found, marked⟩ := shows.item_eq cell.1 cell.2
          have focused : grid.isFocused cell.1 cell.2 = true ↔ cell = pointing.focus := by
            rw [isFocused, Bool.and_eq_true, decide_eq_true_eq, decide_eq_true_eq, ← shows.focus,
              Prod.ext_iff]
          simp only [Bool.false_and, Bool.false_eq_true, if_false, if_true]
          rw [found, Option.bind_some]
          by_cases chosen : cell ∈ pointing.selected
          · rw [if_pos (marked.mpr chosen), if_pos chosen]
            by_cases here : cell = pointing.focus
            · rw [if_pos here, focused.mpr here]
              exact ⟨grid, rfl, shows⟩
            · rw [if_neg here, Bool.eq_false_iff.mpr fun same => here (focused.mp same)]
              exact shows.setSelected (shows.within chosen) false
          · rw [if_neg fun selected => chosen (marked.mp selected), if_neg chosen]
            exact shows.focusItem cell answers
      | false =>
          simp only [Bool.and_false, Bool.false_eq_true, if_false]
          rw [deselects, Option.bind_some]
          exact cleared.focusItem cell answers

theorem outsideCell_eq {rows columns : Nat} (sameRows : grid.numRows = rows)
    (sameColumns : grid.numColumns = columns) (click : Click) :
    ((grid.contentHitTest click).bind fun hit => grid.outsideCell click hit) =
      Pointing.edgeCell rows columns click := by
  rw [contentHitTest, Pointing.edgeCell, Pointing.isOutside, sameRows, sameColumns]
  by_cases filled : 0 < rows ∧ 0 < columns
  · rw [if_pos ⟨Int.natCast_pos.mpr filled.1, Int.natCast_pos.mpr filled.2⟩, decide_eq_true filled,
      Bool.true_and]
    cases click.contentHit with
    | none => rfl
    | some hit =>
        obtain ⟨outsideLeft, outsideTop, outsideRight, outsideBottom⟩ := hit
        simp only [Option.bind_some, Option.any_some, outsideCell, ContentHit.isOutside,
          sameRows, sameColumns]
        cases outsideLeft <;> cases outsideTop <;> cases outsideRight <;> cases outsideBottom <;>
          cases click.rowAt <;> cases click.columnAt <;> rfl
  · rw [if_neg fun both => filled ⟨by omega, by omega⟩, decide_eq_false filled]
    rfl

theorem Shows.edgeCell_eq (shows : grid.Shows sheet pointing) (click : Click) :
    ((grid.contentHitTest click).bind fun hit => grid.outsideCell click hit) =
      Pointing.edgeCell sheet.rows sheet.columns click := by
  obtain ⟨cell, represents, -⟩ := shows.colored
  exact outsideCell_eq represents.numRows represents.numColumns click

theorem Shows.lButtonDown (shows : grid.Shows sheet pointing) (click : Click)
    (answers : EditAnswers) :
    ∃ next, grid.lButtonDown virtual click answers = some next ∧
      next.Shows sheet (pointing.press sheet.rows sheet.columns virtual click) := by
  rw [GridView.lButtonDown, Pointing.press]
  cases click.itemAt with
  | some cell =>
      dsimp only
      split
      · obtain ⟨next, clicked, holds⟩ := shows.clickCell click cell answers
        exact ⟨next.pressed, by rw [clicked, Option.map_some], holds.hold true⟩
      · exact ⟨grid, rfl, shows⟩
  | none =>
      have unfocused := shows.point (-1) (-1) grid.lButtonIsDown
      rw [shows.held] at unfocused
      obtain ⟨cleared, deselects, holds⟩ := unfocused.deselectAll answers
      rw [← shows.held] at deselects
      dsimp only
      rw [deselects, Option.bind_some, holds.edgeCell_eq]
      cases Pointing.edgeCell sheet.rows sheet.columns click with
      | none => exact ⟨cleared.pressed, rfl, holds.hold true⟩
      | some cell =>
          obtain ⟨next, focused, landed⟩ := holds.focusItem cell answers
          refine ⟨next.pressed, ?_, landed.hold true⟩
          dsimp only
          rw [focused, Option.map_some]

theorem Shows.kept (shows : grid.Shows sheet pointing) (click : Click) (answers : EditAnswers) :
    ∃ next, (if !click.control then grid.deselectAll answers else some grid) = some next ∧
      next.Shows sheet (pointing.kept click) := by
  rw [Pointing.kept]
  cases click.control with
  | true => exact ⟨grid, rfl, shows⟩
  | false => exact shows.deselectAll answers

theorem Shows.drawTo (shows : grid.Shows sheet pointing)
    (adjusts : virtual.AdjustsInside sheet.rows sheet.columns) (click : Click)
    (cell : Int × Int) (answers : EditAnswers) :
    ∃ next, ((if !click.control then grid.deselectAll answers else some grid).bind fun grid =>
        grid.selectSquare virtual grid.focusedX grid.focusedY cell.1 cell.2) = some next ∧
      next.Shows sheet ((pointing.kept click).drawTo sheet.rows sheet.columns virtual cell) := by
  obtain ⟨kept, keeps, holds⟩ := shows.kept click answers
  rw [keeps, Option.bind_some]
  exact holds.selectSquare adjusts cell.1 cell.2

theorem isOutside_eq {rows columns : Nat} (sameRows : grid.numRows = rows)
    (sameColumns : grid.numColumns = columns) (click : Click) :
    ((grid.contentHitTest click).filter ContentHit.isOutside).isSome =
      Pointing.isOutside rows columns click := by
  rw [contentHitTest, Pointing.isOutside, sameRows, sameColumns]
  by_cases filled : 0 < rows ∧ 0 < columns
  · rw [if_pos ⟨Int.natCast_pos.mpr filled.1, Int.natCast_pos.mpr filled.2⟩, decide_eq_true filled,
      Bool.true_and]
    cases click.contentHit with
    | none => rfl
    | some hit => cases outside : hit.isOutside <;> simp [outside]
  · rw [if_neg fun both => filled ⟨by omega, by omega⟩, decide_eq_false filled]
    rfl

theorem Shows.dragSelectTo (shows : grid.Shows sheet pointing)
    (adjusts : virtual.AdjustsInside sheet.rows sheet.columns) (click : Click)
    (answers : EditAnswers) :
    ∃ next, grid.dragSelectTo virtual click answers = some next ∧
      next.Shows sheet (pointing.dragTo sheet.rows sheet.columns virtual click) := by
  have outside : ((grid.contentHitTest click).filter ContentHit.isOutside).isSome =
      Pointing.isOutside sheet.rows sheet.columns click := by
    obtain ⟨cell, represents, -⟩ := shows.colored
    exact isOutside_eq represents.numRows represents.numColumns click
  have edge := shows.edgeCell_eq click
  rw [GridView.dragSelectTo, Pointing.dragTo]
  cases found : (grid.contentHitTest click).filter ContentHit.isOutside with
  | some hit =>
      rw [found, Option.isSome_some] at outside
      rw [(Option.filter_eq_some_iff.mp found).1, Option.bind_some] at edge
      rw [← outside, if_pos rfl, ← edge]
      obtain ⟨kept, keeps, holds⟩ := shows.kept click answers
      have same : kept.outsideCell click hit = grid.outsideCell click hit := by
        obtain ⟨cell, represents, -⟩ := shows.colored
        obtain ⟨kept, still, -⟩ := holds.colored
        rw [outsideCell, outsideCell, represents.numRows, represents.numColumns, still.numRows,
          still.numColumns]
      dsimp only
      rw [keeps, Option.bind_some, same]
      cases grid.outsideCell click hit with
      | none => exact ⟨kept, rfl, holds⟩
      | some cell => exact holds.selectSquare adjusts cell.1 cell.2
  | none =>
      rw [found, Option.isSome_none] at outside
      rw [← outside, if_neg Bool.false_ne_true]
      cases click.itemAt with
      | none => exact ⟨grid, rfl, shows⟩
      | some cell => exact shows.drawTo adjusts click cell answers

theorem Shows.drags_iff (shows : grid.Shows sheet pointing) :
    (grid.lButtonIsDown = true ∧ grid.focusedX ≠ -1 ∧ grid.focusedY ≠ -1) ↔ pointing.Drags := by
  rw [Pointing.Drags, ← shows.held, ← shows.focus]

theorem Shows.mouse (shows : grid.Shows sheet pointing)
    (adjusts : virtual.AdjustsInside sheet.rows sheet.columns) (event : MouseInput) :
    ∃ next, grid.mouse virtual event = some next ∧
      next.Shows sheet (pointing.step sheet.rows sheet.columns virtual event) := by
  have drags := shows.drags_iff
  cases event with
  | lButtonDown click answers => exact shows.lButtonDown click answers
  | mouseMove click buttonHeld answers =>
      rw [GridView.mouse, GridView.mouseMove, Pointing.step, shows.idle]
      by_cases moves : pointing.Drags ∧ buttonHeld = true
      · obtain ⟨held, focusX, focusY⟩ := drags.mpr moves.1
        rw [if_pos moves, if_pos ⟨held, focusX, focusY, moves.2⟩, if_neg Bool.false_ne_true]
        cases click.itemAt with
        | none => exact ⟨grid, rfl, shows⟩
        | some cell => exact shows.drawTo adjusts click cell answers
      · rw [if_neg moves, if_neg fun all => moves ⟨drags.mp ⟨all.1, all.2.1, all.2.2.1⟩, all.2.2.2⟩]
        exact ⟨grid, rfl, shows⟩
  | mouseHover click answers =>
      rw [GridView.mouse, GridView.mouseHover, Pointing.step, shows.idle]
      by_cases hovers : pointing.Drags
      · rw [if_pos hovers, if_pos ⟨rfl, drags.mpr hovers⟩]
        exact shows.dragSelectTo adjusts click answers
      · rw [if_neg hovers, if_neg fun all => hovers (drags.mp all.2)]
        exact ⟨grid, rfl, shows⟩
  | lButtonUp click answers =>
      rw [GridView.mouse, GridView.lButtonUp, Pointing.step]
      by_cases releases : pointing.Drags
      · obtain ⟨held, focusX, focusY⟩ := drags.mpr releases
        rw [if_pos releases, if_pos ⟨held, by rw [shows.idle]; rfl, focusX, focusY⟩]
        obtain ⟨next, dragged, holds⟩ := (shows.hold false).dragSelectTo adjusts click answers
        refine ⟨next, dragged, ?_⟩
        rw [Pointing.dragTo_held] at holds
        exact holds
      · rw [if_neg releases, if_neg fun all => releases (drags.mp ⟨all.1, all.2.2.1, all.2.2.2⟩)]
        exact ⟨grid, rfl, shows⟩

end Handlers

/-- What the mouse sees of a grid that stores a sheet. -/
def pointing (grid : GridView) (sheet : Sheet) : Pointing where
  focus := (grid.focusedX, grid.focusedY)
  selected := { cell ∈ Pointing.cells sheet.rows sheet.columns |
    (sheet.cell cell.1.toNat cell.2.toNat).selected = true }
  held := grid.lButtonIsDown

theorem Represents.shows {grid : GridView} {sheet : Sheet} (represents : grid.Represents sheet)
    (idle : grid.editing = false) (null : grid.nullItem.selected = false) :
    grid.Shows sheet (grid.pointing sheet) := by
  refine ⟨⟨sheet.cell, represents, ?_⟩, fun _ chosen => chosen.1, rfl, rfl, idle, null⟩
  intro x y inColumns inRows
  refine ⟨rfl, fun marked => ⟨?_, marked⟩, fun chosen => chosen.2⟩
  exact ⟨Int.natCast_nonneg x, Int.ofNat_lt.mpr inColumns, Int.natCast_nonneg y,
    Int.ofNat_lt.mpr inRows⟩

/-- Every run of mouse messages stays in memory, leaves texts and data alone, and moves focus,
selection and button as the cells pointed at say. -/
theorem mouse_refines (virtual : GridOverrides) (grid : GridView) (sheet : Sheet)
    (represents : grid.Represents sheet) (idle : grid.editing = false)
    (null : grid.nullItem.selected = false)
    (adjusts : virtual.AdjustsInside sheet.rows sheet.columns) (events : List MouseInput) :
    ∃ last, Runs.final (mouse virtual) grid events = some last ∧
      last.Shows sheet (events.foldl (Pointing.step sheet.rows sheet.columns virtual)
        (grid.pointing sheet)) := by
  have kept (grid : GridView) (pointing : Pointing) (event : MouseInput)
      (shows : grid.Shows sheet pointing) := shows.mouse adjusts event
  exact Runs.final_simulates kept (represents.shows idle null) events

theorem base_adjustsInside (rows columns : Nat) :
    GridOverrides.base.AdjustsInside rows columns := by
  rintro left right top bottom - ⟨fromLeft, -, fromTop, -⟩ ⟨-, toRight, -, toBottom⟩ - -
  rintro ⟨x, y⟩ ⟨lower, upper⟩
  have across : left ≤ x ∧ x ≤ right := ⟨lower.1, upper.1⟩
  have down : top ≤ y ∧ y ≤ bottom := ⟨lower.2, upper.2⟩
  change 0 ≤ x ∧ x < columns ∧ 0 ≤ y ∧ y < rows
  dsimp only at fromLeft fromTop toRight toBottom
  omega

def plainClick (cell : Int × Int) : Click := ⟨some cell, none, none, none, false, false⟩

def silentAnswers : EditAnswers := ⟨none, true, .allowed⟩

theorem mouse_refines_drag :
    ∃ last, Runs.final (mouse .base) (ofTable 2 3 fun _ _ => .blank)
        [.lButtonDown (plainClick (0, 0)) silentAnswers,
          .mouseMove (plainClick (2, 1)) true silentAnswers] = some last ∧
      last.Shows ⟨2, 3, fun _ _ => .blank⟩ (List.foldl (Pointing.step 2 3 .base)
        (pointing (ofTable 2 3 fun _ _ => .blank) ⟨2, 3, fun _ _ => .blank⟩)
        [.lButtonDown (plainClick (0, 0)) silentAnswers,
          .mouseMove (plainClick (2, 1)) true silentAnswers]) :=
  mouse_refines .base _ ⟨2, 3, fun _ _ => .blank⟩
    (ofTable_represents (by decide) (by decide) _) rfl rfl (base_adjustsInside 2 3) _

end GridView

end LeanMiniViews
