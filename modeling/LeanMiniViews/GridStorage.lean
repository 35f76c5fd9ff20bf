import LeanMiniViews.GridViewCore
import LeanMiniViews.Runs

/-!
The cells of a grid against a table of them. Rows and columns come and go in any order; rows
without a column have no memory at all, which `resize` does not expect of them.
-/

namespace LeanMiniViews

/-- A table, of which the cells beyond its rows and columns mean nothing. -/
structure Sheet where
  rows : Nat
  columns : Nat
  cell : Nat → Nat → GridControlItem

inductive GridEdit where
  | addColumn
  | addRow (numColumnsInRow : Nat)
  | removeRow (rowNum : Nat)
  | deleteAllItems
  | write (x y : Int) (change : GridControlItem → GridControlItem)

namespace Sheet

def empty : Sheet := ⟨0, 0, fun _ _ => .blank⟩

def resized (sheet : Sheet) (rows columns : Nat) : Sheet :=
  ⟨rows, columns, fun x y =>
    if x < sheet.columns ∧ y < sheet.rows then sheet.cell x y else .blank⟩

@[simp] theorem resized_rows (sheet : Sheet) (rows columns : Nat) :
    (sheet.resized rows columns).rows = rows := rfl

@[simp] theorem resized_columns (sheet : Sheet) (rows columns : Nat) :
    (sheet.resized rows columns).columns = columns := rfl

/-- There is no row to remove beyond the last one. -/
def step (sheet : Sheet) : GridEdit → Option Sheet
  | .addColumn => some (sheet.resized sheet.rows (sheet.columns + 1))
  | .addRow numColumnsInRow =>
      some (sheet.resized (sheet.rows + 1) (max sheet.columns numColumnsInRow))
  | .removeRow rowNum =>
      if rowNum < sheet.rows then
        some ⟨sheet.rows - 1, sheet.columns, fun x y =>
          if y < rowNum then sheet.cell x y else sheet.cell x (y + 1)⟩
      else none
  | .deleteAllItems => some { sheet with rows := 0 }
  | .write x y change =>
      if 0 ≤ x ∧ x < sheet.columns ∧ 0 ≤ y ∧ y < sheet.rows then
        some { sheet with
          cell := Tables.put sheet.cell x.toNat y.toNat (change (sheet.cell x.toNat y.toNat)) }
      else some sheet

/-- Rows that had no column get one. -/
def GivesFirstColumn (sheet : Sheet) : GridEdit → Prop
  | .addColumn => 0 < sheet.rows ∧ sheet.columns = 0
  | .addRow numColumnsInRow => 0 < sheet.rows ∧ sheet.columns = 0 ∧ 0 < numColumnsInRow
  | _ => False

instance (sheet : Sheet) : DecidablePred sheet.GivesFirstColumn
  | .addColumn => inferInstanceAs (Decidable (_ ∧ _))
  | .addRow _ => inferInstanceAs (Decidable (_ ∧ _ ∧ _))
  | .removeRow _ => .isFalse id
  | .deleteAllItems => .isFalse id
  | .write _ _ _ => .isFalse id

end Sheet

namespace GridView

/-- All allocations and the list view succeed. -/
def edit (grid : GridView) : GridEdit → Option GridView
  | .addColumn => grid.addColumn true
  | .addRow numColumnsInRow => grid.addRow numColumnsInRow true
  | .removeRow rowNum => grid.removeRow rowNum true
  | .deleteAllItems => grid.deleteAllItems true true
  | .write x y change => grid.changeItem x y change

structure Represents (grid : GridView) (sheet : Sheet) : Prop where
  numRows : grid.numRows = sheet.rows
  numColumns : grid.numColumns = sheet.columns
  stored : 0 < sheet.rows → 0 < sheet.columns →
    grid.gridItems = some (Tables.tabulate sheet.rows sheet.columns sheet.cell)
  null : ¬ (0 < sheet.rows ∧ 0 < sheet.columns) → grid.gridItems = none

theorem new_represents : new.Represents .empty where
  numRows := rfl
  numColumns := rfl
  stored := by
    intro noRow
    exact absurd noRow (Nat.lt_irrefl 0)
  null _ := rfl

def ofTable (rows columns : Nat) (cell : Nat → Nat → GridControlItem) : GridView :=
  { new with
    gridItems := some (Tables.tabulate rows columns cell)
    numRows := rows
    numColumns := columns }

theorem ofTable_represents {rows columns : Nat} (someRow : 0 < rows) (someColumn : 0 < columns)
    (cell : Nat → Nat → GridControlItem) :
    (ofTable rows columns cell).Represents ⟨rows, columns, cell⟩ where
  numRows := rfl
  numColumns := rfl
  stored _ _ := rfl
  null empty := absurd ⟨someRow, someColumn⟩ empty

section Represented

variable {grid : GridView} {sheet : Sheet}

theorem Represents.congr (represents : grid.Represents sheet)
    {cell : Nat → Nat → GridControlItem}
    (same : ∀ x y, x < sheet.columns → y < sheet.rows → sheet.cell x y = cell x y) :
    grid.Represents ⟨sheet.rows, sheet.columns, cell⟩ where
  numRows := represents.numRows
  numColumns := represents.numColumns
  stored someRow someColumn := by
    rw [represents.stored someRow someColumn, Tables.tabulate_congr same]
  null := represents.null

theorem Represents.item_eq (represents : grid.Represents sheet) {x y : Nat}
    (inColumns : x < sheet.columns) (inRows : y < sheet.rows) :
    grid.inGrid x y = true ∧ Tables.read grid.gridItems x y = some (sheet.cell x y) := by
  have inside : grid.inGrid x y = true := by
    simp [inGrid, represents.numRows, represents.numColumns, inColumns, inRows]
  refine ⟨inside, ?_⟩
  rw [represents.stored (by omega) (by omega), Tables.read_tabulate inColumns inRows]

theorem Represents.deleteRows_eq (represents : grid.Represents sheet)
    (withColumns : 0 < sheet.rows → 0 < sheet.columns) :
    deleteRows grid.gridItems grid.numRows = some () := by
  rw [represents.numRows, deleteRows, Int.toNat_natCast]
  have run := @Loops.times_of_invariant Unit
    (fun y _ => (grid.gridItems.bind fun rows => rows[y]?).map fun _ => ()) (fun _ _ => True)
    0 sheet.rows () trivial ?_
  · obtain ⟨last, reached, -⟩ := run
    exact reached
  · intro y _ _ inRows _
    have someRow : 0 < sheet.rows := by omega
    refine ⟨(), ?_, trivial⟩
    rw [represents.stored someRow (withColumns someRow), Option.bind_some,
      Tables.tabulate_row (by omega), Option.map_some]

theorem Represents.deleteRows_none (represents : grid.Represents sheet) (someRow : 0 < sheet.rows)
    (noColumn : sheet.columns = 0) : deleteRows grid.gridItems grid.numRows = none := by
  obtain ⟨more, rows⟩ := Nat.exists_eq_add_of_lt someRow
  have absent := represents.null (by omega)
  rw [represents.numRows, deleteRows, Int.toNat_natCast, absent, rows, Nat.zero_add]
  rfl

/-! The functions. -/

theorem Represents.resize_eq (represents : grid.Represents sheet) (rows columns : Nat)
    (expected : ¬ (0 < sheet.rows ∧ sheet.columns = 0 ∧ 0 < rows ∧ 0 < columns)) :
    ∃ next, grid.resize rows columns true = some (true, next) ∧
      next.Represents (sheet.resized rows columns) := by
  by_cases filled : (rows : Int) > 0 ∧ (columns : Int) > 0
  · have withColumns : 0 < sheet.rows → 0 < sheet.columns := by omega
    have copied := @Tables.each_write_front GridControlItem rows columns (min rows sheet.rows)
      (min columns sheet.columns) (fun _ _ => .blank) sheet.cell (Nat.min_le_left _ _)
      (Nat.min_le_left _ _) (fun x y _ => Tables.read grid.gridItems x y)
      fun x y inColumns inRows => (represents.item_eq (by omega) (by omega)).2
    have kept : Tables.tabulate rows columns
        (Tables.written (fun _ _ => GridControlItem.blank) sheet.cell 0
          (min columns sheet.columns) 0 (min rows sheet.rows)) =
        Tables.tabulate rows columns (sheet.resized rows columns).cell := by
      apply Tables.tabulate_congr
      intro x y inColumns inRows
      rw [Tables.written]
      exact if_congr (by omega) rfl rfl
    have copyRow : (min (rows : Int) grid.numRows).toNat = min rows sheet.rows := by
      rw [represents.numRows]
      omega
    have copyColumn : (min (columns : Int) grid.numColumns).toNat = min columns sheet.columns := by
      rw [represents.numColumns]
      omega
    rw [resize, if_pos filled, if_pos rfl]
    dsimp only
    rw [copyRow, copyColumn, Int.toNat_natCast, Int.toNat_natCast, copied, Option.bind_some,
      represents.deleteRows_eq withColumns, Option.map_some]
    refine ⟨_, rfl, rfl, rfl, fun _ _ => congrArg some kept, ?_⟩
    intro empty
    exact absurd ⟨by simpa using filled.1, by simpa using filled.2⟩ empty
  · have deleted : (if grid.numRows > 0 ∧ grid.numColumns > 0 then
        deleteRows grid.gridItems grid.numRows else some ()) = some () := by
      split
      · rename_i stored
        rw [represents.numRows, represents.numColumns] at stored
        exact represents.deleteRows_eq fun _ => by omega
      · rfl
    rw [resize, if_neg filled, if_pos (show (rows : Int) = 0 ∨ (columns : Int) = 0 by omega)]
    dsimp only
    rw [deleted, Option.map_some]
    refine ⟨_, rfl, rfl, rfl, ?_, fun _ => rfl⟩
    intro someRow someColumn
    exact absurd ⟨by simpa using someRow, by simpa using someColumn⟩ filled

theorem Represents.resize_none (represents : grid.Represents sheet) {rows columns : Nat}
    (someRow : 0 < sheet.rows) (noColumn : sheet.columns = 0) (moreRows : 0 < rows)
    (moreColumns : 0 < columns) : grid.resize rows columns true = none := by
  have copyColumn : (min (columns : Int) grid.numColumns).toNat = 0 := by
    rw [represents.numColumns, noColumn]
    omega
  rw [resize, if_pos ⟨by omega, by omega⟩, if_pos rfl]
  dsimp only
  rw [copyColumn, Loops.each_zero, Option.bind_some, represents.deleteRows_none someRow noColumn]
  rfl

theorem Represents.moreRows_eq (represents : grid.Represents sheet) :
    grid.numRows + 1 = (sheet.rows + 1 : Nat) := by
  rw [represents.numRows]
  rfl

theorem Represents.moreColumns_eq (represents : grid.Represents sheet) :
    grid.numColumns + 1 = (sheet.columns + 1 : Nat) := by
  rw [represents.numColumns]
  rfl

theorem Represents.maxColumns_eq (represents : grid.Represents sheet) (numColumnsInRow : Nat) :
    max grid.numColumns (numColumnsInRow : Int) = (max sheet.columns numColumnsInRow : Nat) := by
  rw [represents.numColumns]
  omega

theorem Represents.addColumn_eq (represents : grid.Represents sheet)
    (expected : ¬ (0 < sheet.rows ∧ sheet.columns = 0)) :
    ∃ next, grid.addColumn true = some next ∧
      next.Represents (sheet.resized sheet.rows (sheet.columns + 1)) := by
  obtain ⟨next, resized, holds⟩ :=
    represents.resize_eq sheet.rows (sheet.columns + 1) (by omega)
  refine ⟨next, ?_, holds⟩
  rw [addColumn, represents.moreColumns_eq, represents.numRows, resized, Option.map_some]

theorem Represents.addRow_eq (represents : grid.Represents sheet) {numColumnsInRow : Nat}
    (expected : ¬ (0 < sheet.rows ∧ sheet.columns = 0 ∧ 0 < numColumnsInRow)) :
    ∃ next, grid.addRow numColumnsInRow true = some next ∧
      next.Represents (sheet.resized (sheet.rows + 1) (max sheet.columns numColumnsInRow)) := by
  obtain ⟨next, resized, holds⟩ :=
    represents.resize_eq (sheet.rows + 1) (max sheet.columns numColumnsInRow) (by omega)
  refine ⟨next, ?_, holds⟩
  rw [addRow, represents.moreRows_eq, represents.maxColumns_eq, resized, Option.map_some]

/-- A row is overwritten after it was copied to the one in front of it. -/
theorem Represents.shift_eq (represents : grid.Represents sheet) {rowNum : Nat}
    (inRows : rowNum < sheet.rows) :
    ∃ gridItems,
      Loops.each (sheet.rows - 1 - rowNum) sheet.columns
        (fun x y gridItems => (Tables.read gridItems x ((rowNum : Int) + y + 1)).bind fun item =>
          Tables.write gridItems x (rowNum + y) item) grid.gridItems = some gridItems ∧
      { grid with gridItems := gridItems }.Represents ⟨sheet.rows, sheet.columns,
        Tables.written sheet.cell (fun x y => sheet.cell x (y + 1)) rowNum sheet.columns 0
          (sheet.rows - 1 - rowNum)⟩ := by
  by_cases someColumn : 0 < sheet.columns
  · have stored := represents.stored (by omega) someColumn
    have shifted := @Tables.each_write GridControlItem sheet.rows sheet.columns rowNum
      (sheet.rows - 1 - rowNum) sheet.columns sheet.cell (fun x y => sheet.cell x (y + 1))
      (by omega) (Nat.le_refl _)
      (fun x y gridItems => Tables.read gridItems x ((rowNum : Int) + y + 1)) ?_
    · rw [stored, shifted]
      refine ⟨_, rfl, represents.numRows, represents.numColumns, fun _ _ => rfl, ?_⟩
      intro empty
      exact absurd ⟨Nat.zero_lt_of_lt inRows, someColumn⟩ empty
    · intro x y inColumns before
      have place : (rowNum : Int) + y + 1 = ((rowNum + y + 1 : Nat) : Int) := by push_cast; rfl
      rw [place, Tables.read_tabulate inColumns (by omega), Tables.written, if_neg (by omega)]
  · have noColumn : sheet.columns = 0 := by omega
    refine ⟨grid.gridItems, by rw [noColumn, Loops.each_zero], ?_⟩
    exact represents.congr fun x y inColumns _ => absurd inColumns (by omega)

theorem Represents.removeRow_eq (represents : grid.Represents sheet) {rowNum : Nat}
    (inRows : rowNum < sheet.rows) :
    ∃ next, grid.removeRow rowNum true = some next ∧
      next.Represents ⟨sheet.rows - 1, sheet.columns, fun x y =>
        if y < rowNum then sheet.cell x y else sheet.cell x (y + 1)⟩ := by
  obtain ⟨gridItems, shifted, same⟩ := represents.shift_eq inRows
  obtain ⟨next, resized, holds⟩ :=
    same.resize_eq (sheet.rows - 1) sheet.columns (by dsimp only; omega)
  refine ⟨next, ?_, holds.congr ?_⟩
  · have count : (grid.numRows - 1 - rowNum).toNat = sheet.rows - 1 - rowNum := by
      rw [represents.numRows]
      omega
    have rows : grid.numRows - 1 = ((sheet.rows - 1 : Nat) : Int) := by
      rw [represents.numRows]
      omega
    have columns : grid.numColumns.toNat = sheet.columns := by
      rw [represents.numColumns, Int.toNat_natCast]
    rw [← represents.numColumns] at resized
    rw [removeRow, count, columns, shifted, Option.bind_some, rows, resized, Option.map_some]
  · intro x y inColumns before
    dsimp only [Sheet.resized_rows, Sheet.resized_columns] at inColumns before ⊢
    rw [Sheet.resized]
    dsimp only
    rw [if_pos ⟨inColumns, by omega⟩, Tables.written]
    by_cases above : y < rowNum
    · rw [if_pos above, if_neg (by omega)]
    · rw [if_neg above, if_pos (by omega)]

theorem Represents.deleteAllItems_eq (represents : grid.Represents sheet) :
    ∃ next, grid.deleteAllItems true true = some next ∧
      next.Represents { sheet with rows := 0 } := by
  obtain ⟨next, resized, holds⟩ := represents.resize_eq 0 sheet.columns (by omega)
  refine ⟨next, ?_, holds.congr fun x y _ inRows => absurd inRows (Nat.not_lt_zero y)⟩
  rw [deleteAllItems, if_pos rfl, represents.numColumns]
  exact congrArg (Option.map Prod.snd) resized

theorem Represents.write_eq (represents : grid.Represents sheet) {x y : Nat}
    (inColumns : x < sheet.columns) (inRows : y < sheet.rows) (item : GridControlItem) :
    ∃ gridItems, Tables.write grid.gridItems x y item = some gridItems ∧
      { grid with gridItems := gridItems }.Represents
        { sheet with cell := Tables.put sheet.cell x y item } := by
  rw [represents.stored (by omega) (by omega), Tables.write_tabulate inColumns inRows]
  refine ⟨_, rfl, represents.numRows, represents.numColumns, fun _ _ => rfl, ?_⟩
  intro empty
  exact absurd ⟨Nat.zero_lt_of_lt inRows, Nat.zero_lt_of_lt inColumns⟩ empty

theorem Represents.changeCell_eq (represents : grid.Represents sheet) {x y : Nat}
    (inColumns : x < sheet.columns) (inRows : y < sheet.rows)
    (change : GridControlItem → GridControlItem) :
    ∃ gridItems, grid.changeItem x y change = some { grid with gridItems := gridItems } ∧
      { grid with gridItems := gridItems }.Represents
        { sheet with cell := Tables.put sheet.cell x y (change (sheet.cell x y)) } := by
  obtain ⟨inGrid, found⟩ := represents.item_eq inColumns inRows
  obtain ⟨gridItems, written, holds⟩ :=
    represents.write_eq inColumns inRows (change (sheet.cell x y))
  refine ⟨gridItems, ?_, holds⟩
  rw [changeItem, if_pos inGrid, found, Option.bind_some, written, Option.map_some]

theorem Represents.changeItem_eq (represents : grid.Represents sheet) {x y : Int}
    {change : GridControlItem → GridControlItem} {changed : Sheet}
    (taken : sheet.step (.write x y change) = some changed) :
    ∃ next, grid.changeItem x y change = some next ∧ next.Represents changed := by
  by_cases inside : 0 ≤ x ∧ x < sheet.columns ∧ 0 ≤ y ∧ y < sheet.rows
  · rw [Sheet.step, if_pos inside] at taken
    obtain rfl := Option.some.inj taken
    obtain ⟨x, rfl⟩ := Int.eq_ofNat_of_zero_le inside.1
    obtain ⟨y, rfl⟩ := Int.eq_ofNat_of_zero_le inside.2.2.1
    have inColumns : x < sheet.columns := by omega
    have inRows : y < sheet.rows := by omega
    obtain ⟨gridItems, changes, holds⟩ := represents.changeCell_eq inColumns inRows change
    exact ⟨_, changes, holds⟩
  · rw [Sheet.step, if_neg inside] at taken
    obtain rfl := Option.some.inj taken
    have outside : ¬ grid.inGrid x y = true := by
      simp only [GridView.inGrid, represents.numRows, represents.numColumns, Bool.and_eq_true,
        decide_eq_true_eq]
      omega
    rw [changeItem, if_neg outside]
    exact ⟨_, rfl, represents.numRows, represents.numColumns, represents.stored, represents.null⟩

/-! One edit, and runs of them. -/

theorem Represents.edit_eq (represents : grid.Represents sheet) {event : GridEdit} {next : Sheet}
    (taken : sheet.step event = some next) (expected : ¬ sheet.GivesFirstColumn event) :
    ∃ after, grid.edit event = some after ∧ after.Represents next := by
  cases event with
  | addColumn =>
      obtain rfl := Option.some.inj taken
      exact represents.addColumn_eq expected
  | addRow numColumnsInRow =>
      obtain rfl := Option.some.inj taken
      exact represents.addRow_eq expected
  | removeRow rowNum =>
      by_cases inRows : rowNum < sheet.rows
      · rw [Sheet.step, if_pos inRows] at taken
        obtain rfl := Option.some.inj taken
        exact represents.removeRow_eq inRows
      · rw [Sheet.step, if_neg inRows] at taken
        contradiction
  | deleteAllItems =>
      obtain rfl := Option.some.inj taken
      exact represents.deleteAllItems_eq
  | write x y change => exact represents.changeItem_eq taken

theorem Represents.edit_eq_none (represents : grid.Represents sheet) {event : GridEdit}
    (given : sheet.GivesFirstColumn event) : grid.edit event = none := by
  cases event with
  | addColumn =>
      obtain ⟨someRow, noColumn⟩ := given
      rw [edit, addColumn, represents.numRows, represents.moreColumns_eq,
        represents.resize_none someRow noColumn someRow (Nat.succ_pos _), Option.map_none]
  | addRow numColumnsInRow =>
      obtain ⟨someRow, noColumn, someColumn⟩ := given
      rw [edit, addRow, represents.moreRows_eq, represents.maxColumns_eq,
        represents.resize_none someRow noColumn (Nat.succ_pos _) (by omega), Option.map_none]
  | removeRow _ => contradiction
  | deleteAllItems => contradiction
  | write _ _ _ => contradiction

theorem Represents.edits_iff (represents : grid.Represents sheet) {edits : List GridEdit}
    {last : Sheet} (performed : Runs.final Sheet.step sheet edits = some last) :
    (∃ after, Runs.final edit grid edits = some after ∧ after.Represents last) ↔
      Runs.Along Sheet.step (fun sheet event => ¬ sheet.GivesFirstColumn event) sheet edits := by
  induction edits generalizing grid sheet with
  | nil =>
      obtain rfl := Option.some.inj performed
      exact iff_of_true ⟨grid, rfl, represents⟩ trivial
  | cons event rest ih =>
      rw [Runs.final_cons, Option.bind_eq_some_iff] at performed
      obtain ⟨next, taken, performed⟩ := performed
      rw [Runs.along_cons, Runs.final_cons, taken]
      by_cases given : sheet.GivesFirstColumn event
      · rw [represents.edit_eq_none given]
        simp [given]
      · obtain ⟨after, edited, holds⟩ := represents.edit_eq taken given
        rw [edited, Option.bind_some, ih holds performed]
        simp [given]

end Represented

/-- The grid stores the table that the edits lead to, unless rows without a column got one. -/
theorem stores_iff (edits : List GridEdit) {sheet : Sheet}
    (performed : Runs.final Sheet.step .empty edits = some sheet) :
    (∃ grid, Runs.final edit new edits = some grid ∧ grid.Represents sheet) ↔
      Runs.Along Sheet.step (fun sheet event => ¬ sheet.GivesFirstColumn event) .empty edits :=
  new_represents.edits_iff performed

theorem stores_iff_shifted : ∃ sheet,
    Runs.final Sheet.step .empty [.addColumn, .addRow 1, .addRow 1,
      .write 0 1 fun item => item.setText ['b'], .removeRow 0] = some sheet ∧
    (sheet.rows, sheet.columns, (sheet.cell 0 0).text) = (1, 1, ['b']) ∧
    ∃ grid, Runs.final edit new [.addColumn, .addRow 1, .addRow 1,
      .write 0 1 fun item => item.setText ['b'], .removeRow 0] = some grid ∧
      grid.Represents sheet :=
  ⟨_, rfl, by decide, (stores_iff _ rfl).mpr (by decide)⟩

/-- A row without cells, then a column: the row that is deleted does not exist. -/
theorem stores_misses_emptyRow :
    ¬ ∀ edits sheet, Runs.final Sheet.step .empty edits = some sheet →
      ∃ grid, Runs.final edit new edits = some grid ∧ grid.Represents sheet := by
  intro stores
  obtain ⟨grid, reached, -⟩ := stores [.addRow 0, .addColumn] _ rfl
  contradiction

end GridView

end LeanMiniViews
