import LeanMiniViews.GridDrag

/-!
The delete key on a grid: the texts of the marked cells go, as far as the parent agrees, and
nothing else does.
-/

namespace LeanMiniViews

/-- What the parent is told. `MAKEWPARAM` keeps the low words of a cell. -/
inductive GridMessage where
  | gridItemDeleting (x y : UInt16)
  | gridDeleteFinished
deriving DecidableEq, Repr

def GridMessage.deleting (cell : Nat × Nat) : GridMessage :=
  .gridItemDeleting (UInt16.ofNat cell.1) (UInt16.ofNat cell.2)

/-- What the parent hears in all when it is asked about these cells. -/
def GridMessage.conversation (asked : List (Nat × Nat)) : List GridMessage :=
  if asked = [] then [] else asked.map GridMessage.deleting ++ [.gridDeleteFinished]

namespace GridView

structure Deletion where
  grid : GridView
  hasDeleted : Bool
  messages : List GridMessage
deriving DecidableEq, Repr

/-- One round of the loops; `accepts` is what the parent answers for the cell. -/
def deleteCell (accepts : Nat × Nat → Bool) (deletion : Deletion) (cell : Nat × Nat) :
    Option Deletion :=
  (deletion.grid.isMarked cell.1 cell.2).bind fun marked =>
    if marked then
      let changed :=
        if accepts cell then
          deletion.grid.changeItem cell.1 cell.2 fun item => item.setText []
        else some deletion.grid
      changed.map fun grid => ⟨grid, true, deletion.messages ++ [.deleting cell]⟩
    else some deletion

def deleteSelection (grid : GridView) (accepts : Nat × Nat → Bool) :
    Option (GridView × List GridMessage) :=
  (Loops.each grid.numRows.toNat grid.numColumns.toNat
    (fun x y deletion => deleteCell accepts deletion (x, y)) ⟨grid, false, []⟩).map
    fun deletion =>
      (deletion.grid,
        if deletion.hasDeleted then deletion.messages ++ [.gridDeleteFinished]
        else deletion.messages)

section Deleting

variable {grid : GridView} {sheet : Sheet} {accepts : Nat × Nat → Bool}

/-- The sheet with the texts of these cells gone, where they are marked and may go. -/
def cleared (grid : GridView) (sheet : Sheet) (accepts : Nat × Nat → Bool)
    (cells : List (Nat × Nat)) : Sheet :=
  { sheet with cell := fun x y =>
      if (x, y) ∈ cells ∧ grid.mark sheet (x, y) = true ∧ accepts (x, y) = true then
        (sheet.cell x y).setText []
      else sheet.cell x y }

/-- What the loops have done when they come to the rest of the cells. -/
structure DeletesTo (grid : GridView) (sheet : Sheet) (accepts : Nat × Nat → Bool)
    (cells : List (Nat × Nat)) (deletion : Deletion) : Prop where
  represents : deletion.grid.Represents (grid.cleared sheet accepts cells)
  keeps : grid.Keeps deletion.grid
  editing : deletion.grid.editing = grid.editing
  held : deletion.grid.lButtonIsDown = grid.lButtonIsDown
  null : deletion.grid.nullItem = grid.nullItem
  messages : deletion.messages = (cells.filter (grid.mark sheet)).map GridMessage.deleting
  hasDeleted : deletion.hasDeleted = cells.any (grid.mark sheet)

theorem mark_cleared (deletion : Deletion) (cells : List (Nat × Nat))
    (keeps : grid.Keeps deletion.grid) (cell : Nat × Nat) :
    deletion.grid.mark (grid.cleared sheet accepts cells) cell = grid.mark sheet cell := by
  have selected : ((grid.cleared sheet accepts cells).cell cell.1 cell.2).selected =
      (sheet.cell cell.1 cell.2).selected := by
    dsimp only [cleared]
    split
    · rfl
    · rfl
  rw [mark, mark, isFocused, isFocused, keeps.focusedX, keeps.focusedY, selected]

theorem cleared_same {cells : List (Nat × Nat)} {cell : Nat × Nat}
    (spared : ¬ (grid.mark sheet cell = true ∧ accepts cell = true)) :
    grid.cleared sheet accepts (cells ++ [cell]) = grid.cleared sheet accepts cells := by
  unfold cleared
  congr 1
  funext x y
  refine if_congr ?_ rfl rfl
  rw [List.mem_append, List.mem_singleton]
  constructor
  · rintro ⟨before | rfl, goes⟩
    · exact ⟨before, goes⟩
    · exact absurd goes spared
  · rintro ⟨before, goes⟩
    exact ⟨Or.inl before, goes⟩

theorem cleared_put {cells : List (Nat × Nat)} {x y : Nat}
    (goes : grid.mark sheet (x, y) = true ∧ accepts (x, y) = true) :
    Tables.put (grid.cleared sheet accepts cells).cell x y
        (((grid.cleared sheet accepts cells).cell x y).setText []) =
      (grid.cleared sheet accepts (cells ++ [(x, y)])).cell := by
  funext otherX otherY
  dsimp only [Tables.put, cleared]
  by_cases here : otherX = x ∧ otherY = y
  · obtain ⟨rfl, rfl⟩ := here
    have member : (otherX, otherY) ∈ cells ++ [(otherX, otherY)] := by simp
    rw [if_pos ⟨rfl, rfl⟩]
    simp only [member, goes, and_self, and_true, if_true]
    split
    · rfl
    · rfl
  · have elsewhere : (otherX, otherY) ≠ (x, y) := by
      rw [ne_eq, Prod.mk.injEq]
      exact here
    rw [if_neg here]
    refine if_congr (and_congr_left' ?_) rfl rfl
    rw [List.mem_append, List.mem_singleton, or_iff_left elsewhere]

theorem DeletesTo.cell {cells : List (Nat × Nat)} {deletion : Deletion}
    (deletes : DeletesTo grid sheet accepts cells deletion) {cell : Nat × Nat}
    (inside : cell ∈ rowMajor 0 0 sheet.columns sheet.rows) :
    ∃ next, deleteCell accepts deletion cell = some next ∧
      DeletesTo grid sheet accepts (cells ++ [cell]) next := by
  have tested := (deletes.represents.isMarked_eq inside).2
  rw [mark_cleared deletion cells deletes.keeps] at tested
  rw [deleteCell, tested, Option.bind_some]
  cases marked : grid.mark sheet cell with
  | false =>
      refine ⟨deletion, rfl, ?_, deletes.keeps, deletes.editing, deletes.held, deletes.null,
        ?_, ?_⟩
      · rw [cleared_same (by simp [marked])]
        exact deletes.represents
      · simp [deletes.messages, marked]
      · simp [deletes.hasDeleted, marked]
  | true =>
      have told : deletion.messages ++ [.deleting cell] =
          ((cells ++ [cell]).filter (grid.mark sheet)).map GridMessage.deleting := by
        simp [deletes.messages, marked]
      have some_deleted : true = (cells ++ [cell]).any (grid.mark sheet) := by simp [marked]
      cases accepted : accepts cell with
      | false =>
          refine ⟨⟨deletion.grid, true, deletion.messages ++ [.deleting cell]⟩, ?_, ?_,
            deletes.keeps, deletes.editing, deletes.held, deletes.null, told, some_deleted⟩
          · simp
          · rw [cleared_same (by simp [accepted])]
            exact deletes.represents
      | true =>
          obtain ⟨x, y⟩ := cell
          obtain ⟨⟨-, inColumns⟩, -, inRows⟩ := mem_rowMajor.mp inside
          obtain ⟨gridItems, changes, holds⟩ :=
            deletes.represents.changeCell_eq inColumns inRows fun item => item.setText []
          rw [cleared_put ⟨marked, accepted⟩] at holds
          refine ⟨⟨{ deletion.grid with gridItems := gridItems }, true,
            deletion.messages ++ [.deleting (x, y)]⟩, ?_, holds, ?_, deletes.editing, deletes.held,
            deletes.null, told, some_deleted⟩
          · simp only [if_true]
            rw [changes, Option.map_some]
          · exact ⟨deletes.keeps.numRows, deletes.keeps.numColumns, deletes.keeps.focusedX,
              deletes.keeps.focusedY, deletes.keeps.editing⟩

theorem DeletesTo.cells {cells : List (Nat × Nat)} {deletion : Deletion}
    (deletes : DeletesTo grid sheet accepts cells deletion) {later : List (Nat × Nat)}
    (inside : ∀ cell ∈ later, cell ∈ rowMajor 0 0 sheet.columns sheet.rows) :
    ∃ last, later.foldlM (deleteCell accepts) deletion = some last ∧
      DeletesTo grid sheet accepts (cells ++ later) last := by
  induction later generalizing cells deletion with
  | nil => exact ⟨deletion, rfl, by rw [List.append_nil]; exact deletes⟩
  | cons cell rest ih =>
      obtain ⟨next, deleted, holds⟩ := deletes.cell (inside cell List.mem_cons_self)
      obtain ⟨last, finished, final⟩ :=
        ih holds fun other member => inside other (List.mem_cons_of_mem _ member)
      refine ⟨last, ?_, ?_⟩
      · rw [List.foldlM_cons, deleted]
        exact finished
      · rw [List.append_cons]
        exact final

theorem Represents.startDeleting (represents : grid.Represents sheet) :
    DeletesTo grid sheet accepts [] ⟨grid, false, []⟩ := by
  refine ⟨represents.congr ?_, .refl grid, rfl, rfl, rfl, rfl, rfl⟩
  intro x y _ _
  rw [if_neg fun all => List.not_mem_nil all.1]

/-- The sheet after all its marked cells were offered. -/
def withoutSelection (grid : GridView) (sheet : Sheet) (accepts : Nat × Nat → Bool) : Sheet where
  rows := sheet.rows
  columns := sheet.columns
  cell x y :=
    if grid.mark sheet (x, y) = true ∧ accepts (x, y) = true then (sheet.cell x y).setText []
    else sheet.cell x y

theorem DeletesTo.conversation_eq {cells : List (Nat × Nat)} {deletion : Deletion}
    (deletes : DeletesTo grid sheet accepts cells deletion) :
    (if deletion.hasDeleted then deletion.messages ++ [.gridDeleteFinished]
      else deletion.messages) =
      GridMessage.conversation (cells.filter (grid.mark sheet)) := by
  rw [GridMessage.conversation, deletes.hasDeleted, deletes.messages]
  cases any : cells.any (grid.mark sheet) with
  | true =>
      obtain ⟨cell, member, marked⟩ := List.any_eq_true.mp any
      have asked : cells.filter (grid.mark sheet) ≠ [] :=
        List.ne_nil_of_mem (List.mem_filter.mpr ⟨member, marked⟩)
      rw [if_pos rfl, if_neg asked]
  | false =>
      have none : cells.filter (grid.mark sheet) = [] :=
        List.filter_eq_nil_iff.mpr fun cell member marked =>
          Bool.false_ne_true (any ▸ List.any_eq_true.mpr ⟨cell, member, marked⟩)
      rw [if_neg Bool.false_ne_true, if_pos none, none]
      rfl

theorem Represents.deleteSelection_eq (represents : grid.Represents sheet) :
    ∃ last, grid.deleteSelection accepts = some (last.grid, GridMessage.conversation
        ((rowMajor 0 0 sheet.columns sheet.rows).filter (grid.mark sheet))) ∧
      DeletesTo grid sheet accepts (rowMajor 0 0 sheet.columns sheet.rows) last ∧
      last.grid.Represents (grid.withoutSelection sheet accepts) := by
  have columns : grid.numColumns.toNat = sheet.columns := by
    rw [represents.numColumns, Int.toNat_natCast]
  have rows : grid.numRows.toNat = sheet.rows := by rw [represents.numRows, Int.toNat_natCast]
  have initial : DeletesTo grid sheet accepts [] ⟨grid, false, []⟩ := represents.startDeleting
  obtain ⟨last, looped, deletes⟩ := initial.cells fun cell member => member
  rw [List.nil_append] at deletes
  refine ⟨last, ?_, deletes, deletes.represents.congr ?_⟩
  · rw [← deletes.conversation_eq, deleteSelection, columns, rows, Loops.each_eq_foldlM]
    have folded : ((List.range' 0 sheet.rows).flatMap fun y =>
        (List.range' 0 sheet.columns).map fun x => (x, y)).foldlM
          (fun deletion place => deleteCell accepts deletion (place.1, place.2))
          ⟨grid, false, []⟩ = some last := looped
    rw [folded, Option.map_some]
  · intro x y inColumns inRows
    have member : (x, y) ∈ rowMajor 0 0 sheet.columns sheet.rows :=
      mem_rowMajor.mpr ⟨⟨Nat.zero_le x, inColumns⟩, Nat.zero_le y, inRows⟩
    dsimp only [cleared, withoutSelection]
    exact if_congr (and_iff_right member) rfl rfl

/-- The parent is asked about every marked cell once, row by row, and told at the end that it is
over if it was asked at all; the cells it agrees to lose their text, and all else stays. -/
theorem deleteSelection_clears (grid : GridView) (sheet : Sheet)
    (represents : grid.Represents sheet) (accepts : Nat × Nat → Bool) :
    ∃ next, grid.deleteSelection accepts = some (next, GridMessage.conversation
        ((rowMajor 0 0 sheet.columns sheet.rows).filter (grid.mark sheet))) ∧
      next.selection = grid.selection ∧ next.editing = grid.editing ∧ grid.Keeps next ∧
      next.Represents (grid.withoutSelection sheet accepts) := by
  obtain ⟨last, deleted, deletes, left⟩ := @Represents.deleteSelection_eq grid sheet accepts
    represents
  refine ⟨last.grid, deleted, ?_, deletes.editing, deletes.keeps, left⟩
  ext cell
  rw [deletes.represents.mem_selection, represents.mem_selection,
    mark_cleared last _ deletes.keeps]
  rfl

theorem deleteSelection_clears_focused :
    ∃ next, deleteSelection { ofTable 2 2 (fun _ _ => .blank) with focusedX := 1, focusedY := 0 }
        (fun _ => true) = some (next,
          [.gridItemDeleting 1 0, .gridDeleteFinished]) ∧
      next.selection = selection
        { ofTable 2 2 (fun _ _ => .blank) with focusedX := 1, focusedY := 0 } := by
  have stored : Represents
      { ofTable 2 2 (fun _ _ => .blank) with focusedX := 1, focusedY := 0 }
      ⟨2, 2, fun _ _ => .blank⟩ := by
    have blank := ofTable_represents (by decide : 0 < 2) (by decide : 0 < 2)
      (fun _ _ => GridControlItem.blank)
    exact ⟨blank.numRows, blank.numColumns, blank.stored, blank.null⟩
  obtain ⟨next, deleted, same, -⟩ := deleteSelection_clears _ _ stored fun _ => true
  exact ⟨next, deleted, same⟩

end Deleting

end GridView

end LeanMiniViews
