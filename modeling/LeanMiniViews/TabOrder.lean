import LeanMiniViews.GridFocus
import LeanMiniViews.GridStorage
import LeanMiniViews.OrderedWalk
import LeanMiniViews.RowMajor
import Mathlib.Data.List.Sort

/-!
The Tab key: the next cell that may be selected, row by row. Without a focus the row of the focus
is scanned too, which is row -1.
-/

namespace LeanMiniViews

namespace GridView

open RowMajor (Precedes)

def focus (grid : GridView) : Int × Int := (grid.focusedX, grid.focusedY)

def allowedCells (grid : GridView) (virtual : GridOverrides) : List (Int × Int) :=
  (grid.cellsFrom 0).filter fun cell => virtual.allowSel cell.1 cell.2

/-- The allowed cells after the focus, which are all of them if there is none. -/
def laterCells (grid : GridView) (virtual : GridOverrides) : List (Int × Int) :=
  OrderedWalk.later Precedes (grid.allowedCells virtual) grid.focus

def TabAdvances (grid : GridView) (virtual : GridOverrides) (answers : EditAnswers) : Prop :=
  ∃ next, grid.tabKey virtual answers = some next ∧
    next.focus = (grid.laterCells virtual).head?.getD grid.focus

def TabVisits (grid : GridView) (virtual : GridOverrides) (presses : List EditAnswers) : Prop :=
  ∃ last, Runs.final (fun grid answers => grid.tabKey virtual answers) grid presses = some last ∧
    last.focus = ((grid.allowedCells virtual).take presses.length).getLast?.getD (-1, -1)

def Navigates (grid : GridView) (virtual : GridOverrides) : Prop :=
  grid.editing = false ∨ virtual.allowKeyNavDuringEdit .gvTab = true

def AllowsNoHiddenCell (grid : GridView) (virtual : GridOverrides) : Prop :=
  ∀ x : Int, 0 ≤ x → x < grid.numColumns → virtual.allowSel x (-1) = false

/-- There is no cell to go to, or the key is taken and no cell of row -1 is taken for one. -/
def TabFindsCells (grid : GridView) (virtual : GridOverrides) : Prop :=
  grid.laterCells virtual = [] ∨
    grid.Navigates virtual ∧ (¬ grid.Unfocused ∨ grid.AllowsNoHiddenCell virtual)

/-! Cells in their order. -/

theorem mem_ascending {lower bound x : Int} :
    x ∈ ascending lower bound ↔ lower ≤ x ∧ x < bound := by
  rw [ascending, List.mem_map]
  constructor
  · rintro ⟨i, member, rfl⟩
    rw [List.mem_range] at member
    omega
  · intro bounds
    exact ⟨(x - lower).toNat, List.mem_range.mpr (by omega), by omega⟩

theorem ascending_pairwise (lower bound : Int) :
    (ascending lower bound).Pairwise (· < ·) := by
  rw [ascending, List.pairwise_map]
  exact List.pairwise_lt_range.imp fun less => by omega

section Cells

variable {grid : GridView} {cell : Int × Int}

theorem mem_cellsFrom {lower : Int} :
    cell ∈ grid.cellsFrom lower ↔
      (0 ≤ cell.1 ∧ cell.1 < grid.numColumns) ∧ lower ≤ cell.2 ∧ cell.2 < grid.numRows := by
  rw [← mem_ascending, ← mem_ascending]
  exact RowMajor.mem_cells

theorem cellsFrom_pairwise (grid : GridView) (lower : Int) :
    (grid.cellsFrom lower).Pairwise Precedes :=
  RowMajor.cells_pairwise (ascending_pairwise _ _) (ascending_pairwise _ _)

theorem allowedCells_pairwise (grid : GridView) (virtual : GridOverrides) :
    (grid.allowedCells virtual).Pairwise Precedes := (grid.cellsFrom_pairwise 0).filter _

/-- The cells that the two loops of `tabKey` come to, in their order. -/
def scanned (grid : GridView) : List (Int × Int) :=
  ((ascending (grid.focusedX + 1) grid.numColumns).map fun x => (x, grid.focusedY)) ++
    grid.cellsFrom (grid.focusedY + 1)

theorem mem_scanned : cell ∈ grid.scanned ↔
    (cell.2 = grid.focusedY ∧ grid.focusedX < cell.1 ∧ cell.1 < grid.numColumns) ∨
      ((0 ≤ cell.1 ∧ cell.1 < grid.numColumns) ∧
        grid.focusedY < cell.2 ∧ cell.2 < grid.numRows) := by
  rw [scanned, List.mem_append, mem_cellsFrom, List.mem_map]
  refine or_congr ?_ (by omega)
  constructor
  · rintro ⟨x, member, rfl⟩
    rw [mem_ascending] at member
    exact ⟨rfl, by omega, member.2⟩
  · rintro ⟨inRow, right, inColumns⟩
    exact ⟨cell.1, mem_ascending.mpr ⟨by omega, inColumns⟩, Prod.ext rfl inRow.symm⟩

theorem scanned_pairwise (grid : GridView) : grid.scanned.Pairwise Precedes := by
  rw [scanned, List.pairwise_append]
  refine ⟨RowMajor.row_pairwise (ascending_pairwise _ _) _, grid.cellsFrom_pairwise _, ?_⟩
  intro first inRow second below
  obtain ⟨x, -, rfl⟩ := List.mem_map.mp inRow
  have under := (mem_cellsFrom.mp below).2.1
  exact .inl (by dsimp only; omega)

theorem inGrid_iff : grid.inGrid cell.1 cell.2 = true ↔
    (0 ≤ cell.1 ∧ cell.1 < grid.numColumns) ∧ 0 ≤ cell.2 ∧ cell.2 < grid.numRows := by
  simp only [inGrid, Bool.and_eq_true, decide_eq_true_eq]
  omega

end Cells

/-! What the handlers leave in memory. -/

def Stored (grid : GridView) : Prop := ∃ sheet, grid.Represents sheet

section Storage

variable {grid : GridView}

theorem Stored.congr {next : GridView} (stored : grid.Stored)
    (gridItems : next.gridItems = grid.gridItems) (numRows : next.numRows = grid.numRows)
    (numColumns : next.numColumns = grid.numColumns) : next.Stored := by
  obtain ⟨sheet, represents⟩ := stored
  refine ⟨sheet, numRows.trans represents.numRows, numColumns.trans represents.numColumns, ?_, ?_⟩
  · intro someRow someColumn
    exact gridItems.trans (represents.stored someRow someColumn)
  · intro empty
    exact gridItems.trans (represents.null empty)

theorem Stored.changeItem_eq (stored : grid.Stored) (x y : Int)
    (change : GridControlItem → GridControlItem) :
    ∃ next, grid.changeItem x y change = some next ∧ next.Stored := by
  obtain ⟨sheet, represents⟩ := stored
  have taken : ∃ changed, sheet.step (.write x y change) = some changed := by
    rw [Sheet.step]
    split
    · exact ⟨_, rfl⟩
    · exact ⟨_, rfl⟩
  obtain ⟨changed, taken⟩ := taken
  obtain ⟨next, result, holds⟩ := represents.changeItem_eq taken
  exact ⟨next, result, changed, holds⟩

theorem Stored.endEditing_eq (stored : grid.Stored) (answers : EditAnswers) :
    ∃ next, grid.endEditing answers = some next ∧ next.Stored := by
  have ended : { grid with editing := false }.Stored := stored.congr rfl rfl rfl
  rw [endEditing]
  split
  · dsimp only
    split
    · exact ended.changeItem_eq _ _ _
    · exact ⟨_, rfl, ended⟩
  · exact ⟨grid, rfl, stored⟩

theorem Stored.deselectAll_eq (stored : grid.Stored) (answers : EditAnswers) :
    ∃ next, grid.deselectAll answers = some next ∧ next.Stored := by
  obtain ⟨ended, ends, sheet, represents⟩ := stored.endEditing_eq answers
  let invariant (_ _ : Nat) (gridItems : Option (List (List GridControlItem))) : Prop :=
    ∃ cell, { ended with gridItems := gridItems }.Represents ⟨sheet.rows, sheet.columns, cell⟩
  have kept (x y : Nat) (gridItems : Option (List (List GridControlItem)))
      (inColumns : x < ended.numColumns.toNat) (inRows : y < ended.numRows.toNat)
      (holds : invariant x y gridItems) :
      ∃ next, setSelected gridItems x y false = some next ∧ invariant (x + 1) y next := by
    obtain ⟨cell, same⟩ := holds
    rw [represents.numColumns, Int.toNat_natCast] at inColumns
    rw [represents.numRows, Int.toNat_natCast] at inRows
    obtain ⟨next, written, after⟩ :=
      same.write_eq inColumns inRows ((cell x y).setSelected false)
    refine ⟨next, ?_, _, after⟩
    rw [setSelected, (same.item_eq inColumns inRows).2, Option.bind_some, written]
  obtain ⟨gridItems, deselected, cell, holds⟩ :=
    Loops.each_of_invariant (show invariant 0 0 ended.gridItems from ⟨sheet.cell, represents⟩)
      kept fun _ _ same => same
  refine ⟨{ ended with gridItems := gridItems }, ?_, _, holds⟩
  rw [deselectAll, ends, Option.bind_some, deselected, Option.map_some]

end Storage

structure Follows (grid next : GridView) : Prop where
  stored : next.Stored
  numRows : next.numRows = grid.numRows
  numColumns : next.numColumns = grid.numColumns
  editing : next.editing = true → grid.editing = true

theorem Keeps.follows {grid next : GridView} (keeps : grid.Keeps next) (stored : next.Stored) :
    grid.Follows next := ⟨stored, keeps.numRows, keeps.numColumns, keeps.editing⟩

theorem Follows.trans {grid middle next : GridView} (first : grid.Follows middle)
    (second : middle.Follows next) : grid.Follows next where
  stored := second.stored
  numRows := second.numRows.trans first.numRows
  numColumns := second.numColumns.trans first.numColumns
  editing edited := first.editing (second.editing edited)

theorem Keeps.focus {grid next : GridView} (keeps : grid.Keeps next) : next.focus = grid.focus :=
  Prod.ext keeps.focusedX keeps.focusedY

/-! The key. -/

section Tab

variable {grid : GridView} {virtual : GridOverrides}

def landing (grid : GridView) (virtual : GridOverrides) (cell : Int × Int) : Int × Int :=
  if grid.inGrid cell.1 cell.2 ∧ virtual.allowSel cell.1 cell.2 then cell else grid.focus

theorem Stored.focusItem_eq (stored : grid.Stored) (x y : Int) (answers : EditAnswers) :
    ∃ next, grid.focusItem virtual x y answers = some next ∧ grid.Follows next ∧
      next.focus = grid.landing virtual (x, y) := by
  obtain ⟨ended, ends, still⟩ := stored.endEditing_eq answers
  have keeps := endEditing_keeps ends
  have sameInGrid : ended.inGrid x y = grid.inGrid x y := by
    rw [inGrid, inGrid, keeps.numRows, keeps.numColumns]
  rw [focusItem, ends, Option.bind_some, landing, sameInGrid]
  by_cases inside : grid.inGrid x y = true ∧ virtual.allowSel x y = true
  · rw [if_pos inside, if_pos inside]
    by_cases moves : x ≠ ended.focusedX ∨ y ≠ ended.focusedY
    · rw [if_pos moves]
      have focused : { ended with focusedX := x, focusedY := y }.Stored :=
        still.congr rfl rfl rfl
      obtain ⟨next, changed, after⟩ := focused.changeItem_eq x y fun item => item.setSelected true
      have same := changeItem_keeps changed
      refine ⟨next, changed, (keeps.follows still).trans ?_, same.focus⟩
      exact ⟨after, same.numRows, same.numColumns, same.editing⟩
    · rw [if_neg moves]
      have stays : ended.focus = (x, y) := by
        rw [not_or, not_not, not_not] at moves
        exact Prod.ext moves.1.symm moves.2.symm
      exact ⟨ended, rfl, keeps.follows still, stays⟩
  · rw [if_neg inside, if_neg inside]
    exact ⟨ended, rfl, keeps.follows still, keeps.focus⟩

theorem focusFirst_append (first second : List (Int × Int)) (answers : EditAnswers)
    (otherwise : Option GridView) :
    grid.focusFirst virtual first answers (grid.focusFirst virtual second answers otherwise) =
      grid.focusFirst virtual (first ++ second) answers otherwise := by
  rw [focusFirst, focusFirst, focusFirst, List.find?_append]
  cases first.find? fun cell => virtual.allowSel cell.1 cell.2 with
  | none => rw [Option.none_or]
  | some cell => rw [Option.some_or]

theorem Stored.tabKey_eq (stored : grid.Stored) (navigates : grid.Navigates virtual)
    (answers : EditAnswers) :
    ∃ next, grid.tabKey virtual answers = some next ∧ grid.Follows next ∧
      next.focus = (grid.scanned.find? fun cell => virtual.allowSel cell.1 cell.2).elim grid.focus
        (grid.landing virtual) := by
  obtain ⟨deselected, deselects, still⟩ := stored.deselectAll_eq answers
  have keeps := deselectAll_keeps deselects
  have taken : (!grid.editing || virtual.allowKeyNavDuringEdit .gvTab) = true := by
    simpa [Navigates] using navigates
  have sameScan : deselected.scanned = grid.scanned := by
    rw [scanned, scanned, cellsFrom, cellsFrom, keeps.numRows, keeps.numColumns, keeps.focusedX,
      keeps.focusedY]
  have sameLanding : deselected.landing virtual = grid.landing virtual := by
    funext cell
    rw [landing, landing, inGrid, inGrid, keeps.numRows, keeps.numColumns, keeps.focus]
  rw [tabKey, navigate, if_pos taken, deselects, Option.bind_some]
  dsimp only
  rw [focusFirst_append, focusFirst, ← scanned, sameScan, ← sameLanding]
  cases grid.scanned.find? fun cell => virtual.allowSel cell.1 cell.2 with
  | none => exact ⟨deselected, rfl, keeps.follows still, keeps.focus⟩
  | some cell =>
      obtain ⟨next, focused, follows, lands⟩ := still.focusItem_eq cell.1 cell.2 answers
      exact ⟨next, focused, (keeps.follows still).trans follows, lands⟩

theorem tabKey_blocked (blocked : ¬ grid.Navigates virtual) (answers : EditAnswers) :
    grid.tabKey virtual answers = some grid := by
  rw [tabKey, navigate, if_neg (by simpa [Navigates] using blocked)]

theorem laterCells_head (grid : GridView) (virtual : GridOverrides) :
    (grid.laterCells virtual).head? =
      (OrderedWalk.later Precedes (grid.cellsFrom 0) grid.focus).find?
        fun cell => virtual.allowSel cell.1 cell.2 := by
  rw [laterCells, allowedCells, OrderedWalk.later, OrderedWalk.later, List.filter_comm,
    List.head?_filter]

theorem mem_later {cell : Int × Int} :
    cell ∈ OrderedWalk.later Precedes (grid.cellsFrom 0) grid.focus ↔
      cell ∈ grid.cellsFrom 0 ∧ Precedes grid.focus cell := by
  rw [OrderedWalk.later, List.mem_filter, decide_eq_true_eq]

theorem mem_laterCells {cell : Int × Int} :
    cell ∈ grid.laterCells virtual ↔ (cell ∈ grid.cellsFrom 0 ∧
      virtual.allowSel cell.1 cell.2 = true) ∧ Precedes grid.focus cell := by
  rw [laterCells, OrderedWalk.later, List.mem_filter, allowedCells, List.mem_filter,
    decide_eq_true_eq]

theorem scanned_eq_later (focused : grid.FocusIsCell) (real : ¬ grid.Unfocused) :
    grid.scanned = OrderedWalk.later Precedes (grid.cellsFrom 0) grid.focus := by
  have inside := focused.resolve_left real
  have : Std.Irrefl (@Precedes Int _) := ⟨Precedes.irrefl⟩
  have : Std.Antisymm (@Precedes Int _) :=
    ⟨fun first _ front back => absurd (front.trans back) (Precedes.irrefl first)⟩
  apply grid.scanned_pairwise.eq_of_mem_iff ((grid.cellsFrom_pairwise 0).filter _)
  intro cell
  rw [mem_scanned, ← OrderedWalk.later, mem_later, mem_cellsFrom, Precedes, focus]
  omega

theorem later_eq_cells (unfocused : grid.Unfocused) :
    OrderedWalk.later Precedes (grid.cellsFrom 0) grid.focus = grid.cellsFrom 0 := by
  rw [OrderedWalk.later, List.filter_eq_self]
  intro cell member
  have inRows := (mem_cellsFrom.mp member).2.1
  rw [decide_eq_true_eq, Precedes, focus, unfocused.2]
  exact .inl (by dsimp only; omega)

theorem scanned_find_eq (focused : grid.FocusIsCell)
    (reaches : ¬ grid.Unfocused ∨ grid.AllowsNoHiddenCell virtual) :
    (grid.scanned.find? fun cell => virtual.allowSel cell.1 cell.2) =
      (grid.laterCells virtual).head? := by
  rw [laterCells_head]
  by_cases unfocused : grid.Unfocused
  · have noHidden := reaches.resolve_left (not_not_intro unfocused)
    have first : (((ascending (grid.focusedX + 1) grid.numColumns).map fun x =>
        (x, grid.focusedY)).find? fun cell => virtual.allowSel cell.1 cell.2) = none := by
      rw [List.find?_eq_none, unfocused.1, unfocused.2]
      intro cell member
      obtain ⟨x, inColumns, rfl⟩ := List.mem_map.mp member
      rw [mem_ascending] at inColumns
      simpa using noHidden x inColumns.1 inColumns.2
    rw [later_eq_cells unfocused, scanned, List.find?_append, first, Option.none_or, unfocused.2]
    rfl
  · rw [scanned_eq_later focused unfocused]

theorem landing_of_later {cell : Int × Int} (later : cell ∈ grid.laterCells virtual) :
    grid.landing virtual cell = cell := by
  have found := (mem_laterCells.mp later).1
  rw [landing, if_pos ⟨inGrid_iff.mpr (mem_cellsFrom.mp found.1), found.2⟩]

/-- The cell of row -1 that is found first is refused. -/
theorem landing_of_hidden (unfocused : grid.Unfocused)
    (hidden : ¬ grid.AllowsNoHiddenCell virtual) :
    ((grid.scanned.find? fun cell => virtual.allowSel cell.1 cell.2).elim grid.focus
      (grid.landing virtual)) = grid.focus := by
  simp only [AllowsNoHiddenCell, not_forall, Bool.not_eq_false] at hidden
  obtain ⟨x, right, inColumns, allowed⟩ := hidden
  have shown : (((ascending (grid.focusedX + 1) grid.numColumns).map fun x =>
      (x, grid.focusedY)).find? fun cell => virtual.allowSel cell.1 cell.2).isSome := by
    rw [List.find?_isSome, unfocused.1, unfocused.2]
    exact ⟨(x, -1), List.mem_map.mpr ⟨x, mem_ascending.mpr ⟨right, inColumns⟩, rfl⟩, allowed⟩
  obtain ⟨cell, found⟩ := Option.isSome_iff_exists.mp shown
  obtain ⟨column, _, rfl⟩ := List.mem_map.mp (List.mem_of_find?_eq_some found)
  rw [scanned, List.find?_append, found, Option.some_or, Option.elim_some, landing, if_neg]
  rw [inGrid_iff, unfocused.2]
  omega

theorem stays_iff : grid.focus = (grid.laterCells virtual).head?.getD grid.focus ↔
    grid.laterCells virtual = [] := by
  cases cells : grid.laterCells virtual with
  | nil => exact iff_of_true rfl rfl
  | cons cell rest =>
      have later := (mem_laterCells.mp (cells ▸ List.mem_cons_self)).2
      refine iff_of_false ?_ (List.cons_ne_nil cell rest)
      intro same
      rw [List.head?_cons, Option.getD_some] at same
      exact Precedes.irrefl cell (same ▸ later)

theorem Stored.tabKey_iff (stored : grid.Stored) (focused : grid.FocusIsCell)
    (answers : EditAnswers) :
    ∃ next, grid.tabKey virtual answers = some next ∧ grid.Follows next ∧
      (next.focus = (grid.laterCells virtual).head?.getD grid.focus ↔
        grid.TabFindsCells virtual) := by
  by_cases navigates : grid.Navigates virtual
  · obtain ⟨next, tabbed, follows, lands⟩ := stored.tabKey_eq navigates answers
    refine ⟨next, tabbed, follows, ?_⟩
    rw [lands, TabFindsCells]
    by_cases reaches : ¬ grid.Unfocused ∨ grid.AllowsNoHiddenCell virtual
    · refine iff_of_true ?_ (.inr ⟨navigates, reaches⟩)
      rw [scanned_find_eq focused reaches]
      cases cells : grid.laterCells virtual with
      | nil => rfl
      | cons cell rest => exact landing_of_later (cells ▸ List.mem_cons_self)
    · rw [not_or, not_not] at reaches
      rw [landing_of_hidden reaches.1 reaches.2, stays_iff]
      simp [reaches]
  · refine ⟨grid, tabKey_blocked navigates answers, ⟨stored, rfl, rfl, id⟩, ?_⟩
    rw [stays_iff, TabFindsCells]
    simp [navigates]

theorem Follows.cellsFrom_eq {next : GridView} (follows : grid.Follows next) (lower : Int) :
    next.cellsFrom lower = grid.cellsFrom lower := by
  rw [cellsFrom, cellsFrom, follows.numRows, follows.numColumns]

theorem laterCells_of_unfocused (unfocused : grid.Unfocused) :
    grid.laterCells virtual = grid.allowedCells virtual := by
  rw [laterCells, allowedCells, OrderedWalk.later, List.filter_comm]
  exact congrArg _ (later_eq_cells unfocused)

structure Tabbing (virtual : GridOverrides) (start grid : GridView) : Prop where
  follows : start.Follows grid
  focused : grid.FocusIsCell
  finds : start.allowedCells virtual = [] ∨
    grid.Navigates virtual ∧ start.AllowsNoHiddenCell virtual

theorem Tabbing.next {start : GridView} (tabbing : Tabbing virtual start grid)
    (answers : EditAnswers) :
    ∃ next, grid.tabKey virtual answers = some next ∧ Tabbing virtual start next ∧
      next.focus = (OrderedWalk.later Precedes (start.allowedCells virtual)
        grid.focus).head?.getD grid.focus := by
  obtain ⟨next, tabbed, follows, exactly⟩ :=
    @Stored.tabKey_iff grid virtual tabbing.follows.stored tabbing.focused answers
  have allowed : start.allowedCells virtual = grid.allowedCells virtual := by
    rw [allowedCells, allowedCells, tabbing.follows.cellsFrom_eq]
  have finds : grid.TabFindsCells virtual := by
    obtain none | ⟨navigates, noHidden⟩ := tabbing.finds
    · refine .inl ?_
      rw [laterCells, ← allowed, none]
      rfl
    · refine .inr ⟨navigates, .inr ?_⟩
      rw [AllowsNoHiddenCell, tabbing.follows.numColumns]
      exact noHidden
  refine ⟨next, tabbed, ⟨tabbing.follows.trans follows, ?_, ?_⟩, ?_⟩
  · exact @keyDown_focusIsCell grid next virtual answers .gvTab tabbing.focused tabbed
  · obtain none | ⟨navigates, noHidden⟩ := tabbing.finds
    · exact .inl none
    · refine .inr ⟨?_, noHidden⟩
      obtain notEditing | taken := navigates
      · left
        cases edited : next.editing with
        | true => exact absurd (follows.editing edited) (by simp [notEditing])
        | false => rfl
      · exact .inr taken
  · rw [allowed]
    exact exactly.mpr finds

theorem Stored.tabVisits_iff (stored : grid.Stored) (unfocused : grid.Unfocused) :
    (∀ presses, grid.TabVisits virtual presses) ↔ grid.TabFindsCells virtual := by
  have start : grid.focus = (-1, -1) := Prod.ext unfocused.1 unfocused.2
  have cells : grid.laterCells virtual = grid.allowedCells virtual :=
    laterCells_of_unfocused unfocused
  constructor
  · intro visits
    obtain ⟨next, tabbed, -, exactly⟩ :=
      @Stored.tabKey_iff grid virtual stored (.inl unfocused) ⟨none, true, .prevented⟩
    obtain ⟨last, reached, visited⟩ := visits [⟨none, true, .prevented⟩]
    rw [Runs.final_cons, tabbed, Option.bind_some, Runs.final_nil, Option.some.injEq] at reached
    refine exactly.mp ?_
    rw [reached, visited, cells, start]
    cases grid.allowedCells virtual with
    | nil => rfl
    | cons cell rest => rfl
  · intro finds presses
    have initial : Tabbing virtual grid grid := by
      refine ⟨⟨stored, rfl, rfl, id⟩, .inl unfocused, ?_⟩
      obtain none | ⟨navigates, reaches⟩ := finds
      · exact .inl (cells ▸ none)
      · exact .inr ⟨navigates, reaches.resolve_left (not_not_intro unfocused)⟩
    obtain ⟨last, reached, visited⟩ := OrderedWalk.final_of_next Precedes.irrefl Precedes.trans
      (grid.allowedCells_pairwise virtual) (fun _ answers tabbing => tabbing.next answers)
      presses initial
    refine ⟨last, reached, ?_⟩
    rw [visited, ← laterCells, cells, start]

/-- One press goes to the first allowed cell after the focus, and presses from no focus go through
all of them, exactly if no cell of row -1 is taken for one. -/
theorem tab_order_iff (represents : grid.Represents sheet) (focused : grid.FocusIsCell) :
    (∀ answers, grid.TabAdvances virtual answers ↔ grid.TabFindsCells virtual) ∧
      (grid.Unfocused →
        ((∀ presses, grid.TabVisits virtual presses) ↔ grid.TabFindsCells virtual)) := by
  have stored : grid.Stored := ⟨sheet, represents⟩
  refine ⟨?_, stored.tabVisits_iff⟩
  intro answers
  obtain ⟨next, tabbed, -, exactly⟩ := @Stored.tabKey_iff grid virtual stored focused answers
  rw [← exactly, TabAdvances, tabbed]
  simp

end Tab

def squareGrid : GridView := ofTable 2 2 fun _ _ => .blank

theorem squareGrid_represents : squareGrid.Represents ⟨2, 2, fun _ _ => .blank⟩ :=
  ofTable_represents (by decide) (by decide) fun _ _ => .blank

def secondRow : GridOverrides := { GridOverrides.base with allowSel := fun _ y => y = 1 }

theorem tab_order_iff_secondRow :
    (∀ answers, squareGrid.TabAdvances secondRow answers ↔ squareGrid.TabFindsCells secondRow) ∧
      (squareGrid.Unfocused →
        ((∀ presses, squareGrid.TabVisits secondRow presses) ↔
          squareGrid.TabFindsCells secondRow)) :=
  tab_order_iff squareGrid_represents (.inl ⟨rfl, rfl⟩)

/-- Where every cell may be selected, the first press finds cell `(0, -1)` and stays. -/
theorem tab_misses_firstCell :
    ¬ ∀ (virtual : GridOverrides) (sheet : Sheet) (grid : GridView), grid.Represents sheet →
      grid.FocusIsCell → ∀ answers, grid.TabAdvances virtual answers := by
  intro claim
  obtain ⟨next, tabbed, moved⟩ := claim .base _ squareGrid squareGrid_represents
    (.inl ⟨rfl, rfl⟩) ⟨none, true, .prevented⟩
  have stays : squareGrid.tabKey .base ⟨none, true, .prevented⟩ = some squareGrid := by decide
  rw [stays, Option.some.injEq] at tabbed
  rw [← tabbed] at moved
  exact absurd moved (by decide)

end GridView

end LeanMiniViews
