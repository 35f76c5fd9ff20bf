import LeanMiniViews.GridEditing
import LeanMiniViews.TabOrder

/-!
What editing in a grid means: one cell at a time has a draft, and what the parent makes of the
draft becomes its text, if it takes it. Keys and clicks move the focus only once there is no draft.
-/

namespace LeanMiniViews

namespace Sheet

def withText (sheet : Sheet) (cell : Int × Int) (text : List Char) : Sheet where
  rows := sheet.rows
  columns := sheet.columns
  cell x y :=
    if ((x : Int), (y : Int)) = cell then (sheet.cell x y).setText text else sheet.cell x y

def textAt (sheet : Sheet) (cell : Int × Int) : List Char :=
  (sheet.cell cell.1.toNat cell.2.toNat).text

end Sheet

namespace Pointing

section Keys

variable (virtual : GridOverrides)

/-- The cells a key may give the focus to, in the order in which they are tried. -/
def keyCells (rows columns : Int) (focus : Int × Int) : GVKey → List (Int × Int)
  | .gvLeft => (GridView.descending (focus.1 - 1)).map fun x => (x, focus.2)
  | .gvUp => (GridView.descending (focus.2 - 1)).map fun y => (focus.1, y)
  | .gvRight => (GridView.ascending (focus.1 + 1) columns).map fun x => (x, focus.2)
  | .gvDown => (GridView.ascending (focus.2 + 1) rows).map fun y => (focus.1, y)
  | .gvTab =>
      (GridView.ascending (focus.1 + 1) columns).map (fun x => (x, focus.2)) ++
        (GridView.ascending (focus.2 + 1) rows).flatMap fun y =>
          (GridView.ascending 0 columns).map fun x => (x, y)
  | .gvReturn =>
      (GridView.ascending (focus.2 + 1) rows).flatMap fun y =>
        (GridView.ascending 0 columns).map fun x => (x, y)

def focusFirst (rows columns : Nat) (pointing : Pointing) (cells : List (Int × Int)) : Pointing :=
  match cells.find? fun cell => virtual.allowSel cell.1 cell.2 with
  | some cell => pointing.focusOn rows columns virtual cell
  | none => pointing

def keyDown (rows columns : Nat) (pointing : Pointing) (key : GVKey) : Pointing :=
  pointing.deselect.focusFirst virtual rows columns (keyCells rows columns pointing.focus key)

end Keys

/-- The focus is a cell, or none. -/
def Placed (rows columns : Nat) (pointing : Pointing) : Prop :=
  pointing.focus = (-1, -1) ∨ pointing.focus ∈ cells rows columns

end Pointing

/-- A grid of texts, one of which may have a draft. `forwards` is whether the arrow keys of the
box go to the grid, which they do from the first draft on that a character began. -/
structure CellEntry where
  sheet : Sheet
  pointing : Pointing
  draft : Option ((Int × Int) × List Char)
  forwards : Bool

namespace CellEntry

def close (entry : CellEntry) (answers : GridControl.BoxAnswers) : CellEntry :=
  match entry.draft with
  | some (cell, text) =>
      { entry with
        draft := none
        sheet :=
          match answers.str text with
          | some str => entry.sheet.withText cell str
          | none => entry.sheet }
  | none => entry

def begin (entry : CellEntry) (created : Bool) (text : List Char) : CellEntry :=
  if entry.draft.isNone && created then { entry with draft := some (entry.pointing.focus, text) }
  else entry

/-- A backspace begins with nothing, any other character with itself. -/
def char (entry : CellEntry) (created : Bool) (character : List Char) : CellEntry :=
  if character = GridControl.backspace then entry.begin created []
  else
    { entry.begin created character with
      forwards := entry.forwards || (entry.draft.isNone && created) }

def redraft (entry : CellEntry) (text : List Char) : CellEntry :=
  { entry with draft := entry.draft.map fun draft => (draft.1, text) }

def mark (entry : CellEntry) (cell : Nat × Nat) : Prop :=
  ((cell.1 : Int), (cell.2 : Int)) ∈ insert entry.pointing.focus entry.pointing.selected

open scoped Classical in
noncomputable def delete (entry : CellEntry) (accepts : Nat × Nat → Bool) : CellEntry :=
  { entry with
    sheet := { entry.sheet with
      cell := fun x y =>
        if entry.mark (x, y) ∧ accepts (x, y) then (entry.sheet.cell x y).setText []
        else entry.sheet.cell x y } }

section Meaning

variable (virtual : GridOverrides)

/-- The draft is closed before the cells are pointed at. -/
def point (entry : CellEntry) (answers : GridControl.BoxAnswers)
    (move : Nat → Nat → Pointing → Pointing) : CellEntry :=
  let closed := entry.close answers
  { closed with pointing := move closed.sheet.rows closed.sheet.columns closed.pointing }

def keyDown (entry : CellEntry) (key : GVKey) (answers : GridControl.BoxAnswers) : CellEntry :=
  if entry.draft.isNone || virtual.allowKeyNavDuringEdit key then
    entry.point answers fun rows columns pointing => pointing.keyDown virtual rows columns key
  else entry

/-- A drag does nothing as long as there is a draft. -/
noncomputable def drag (entry : CellEntry) (input : MouseInput) : CellEntry :=
  if entry.draft.isNone then
    { entry with
      pointing := entry.pointing.step entry.sheet.rows entry.sheet.columns virtual input }
  else entry

noncomputable def step (entry : CellEntry) : EditInput → CellEntry
  | .setFocus answers => entry.close answers
  | .killFocus => entry
  | .endEditing answers => entry.close answers
  | .focusItem cell answers =>
      entry.point answers fun rows columns pointing =>
        pointing.focusOn rows columns virtual cell
  | .keyDown key answers => entry.keyDown virtual key answers
  | .deleteKey accepts => entry.delete accepts
  | .char controlKey character opening =>
      if controlKey then entry else entry.char opening.created character
  | .lButtonDown click answers =>
      entry.point answers fun rows columns pointing =>
        pointing.press rows columns virtual click
  | .mouseMove click buttonHeld _ =>
      entry.drag virtual (.mouseMove click buttonHeld GridView.silentAnswers)
  | .mouseHover click _ => entry.drag virtual (.mouseHover click GridView.silentAnswers)
  | .lButtonUp click _ => entry.drag virtual (.lButtonUp click GridView.silentAnswers)
  | .lButtonDblClk click created =>
      if click.itemAt = some entry.pointing.focus then
        entry.begin created (entry.sheet.textAt entry.pointing.focus)
      else entry
  | .boxKeyDown key answers =>
      let isArrow := key = .gvLeft ∨ key = .gvUp ∨ key = .gvRight ∨ key = .gvDown
      if entry.draft.isSome ∧ entry.forwards ∧ isArrow then entry.keyDown virtual key answers
      else entry
  | .boxEdited text => entry.redraft text
  | .setEditText text => entry.redraft text

end Meaning

end CellEntry

namespace GridView

/-! The handlers that end the editing first. -/

section Ending

variable {grid ended : GridView} {virtual : GridOverrides} {answers : EditAnswers}

theorem endEditing_idle (idle : grid.editing = false) (answers : EditAnswers) :
    grid.endEditing answers = some grid := by
  rw [endEditing, if_neg (by simp [idle])]

theorem deselectAll_ended (ends : grid.endEditing answers = some ended)
    (idle : ended.editing = false) : grid.deselectAll answers = ended.deselectAll answers := by
  rw [deselectAll, deselectAll, ends, endEditing_idle idle]

theorem focusItem_ended (ends : grid.endEditing answers = some ended)
    (idle : ended.editing = false) (x y : Int) :
    grid.focusItem virtual x y answers = ended.focusItem virtual x y answers := by
  rw [focusItem, focusItem, ends, endEditing_idle idle]

/-- Every key that moves the focus tries its cells in turn. -/
theorem keyDown_eq (key : GVKey) :
    grid.keyDown virtual answers key = grid.navigate virtual key answers fun grid =>
      grid.focusFirst virtual (Pointing.keyCells grid.numRows grid.numColumns
        (grid.focusedX, grid.focusedY) key) answers (some grid) := by
  cases key with
  | gvTab =>
      have spread : (fun grid : GridView => grid.focusFirst virtual (Pointing.keyCells
          grid.numRows grid.numColumns (grid.focusedX, grid.focusedY) .gvTab) answers
            (some grid)) = fun grid =>
          grid.focusFirst virtual ((ascending (grid.focusedX + 1) grid.numColumns).map fun x =>
            (x, grid.focusedY)) answers (grid.focusFirst virtual
              (grid.cellsFrom (grid.focusedY + 1)) answers (some grid)) := by
        funext grid
        exact (focusFirst_append _ _ answers _).symm
      rw [spread]
      rfl
  | _ => rfl

theorem keyDown_ended (ends : grid.endEditing answers = some ended) (idle : ended.editing = false)
    {key : GVKey} (moves : grid.editing = false ∨ virtual.allowKeyNavDuringEdit key = true) :
    grid.keyDown virtual answers key = ended.keyDown virtual answers key := by
  have moved : (!grid.editing || virtual.allowKeyNavDuringEdit key) = true := by
    rcases moves with still | allowed
    · rw [still]
      rfl
    · rw [allowed, Bool.or_true]
  have free : (!ended.editing || virtual.allowKeyNavDuringEdit key) = true := by
    rw [idle]
    rfl
  rw [keyDown_eq, keyDown_eq, navigate, navigate, if_pos moved, if_pos free,
    deselectAll_ended ends idle]

end Ending

section Shown

variable {grid : GridView} {sheet : Sheet} {pointing : Pointing} {virtual : GridOverrides}

theorem Shows.withText (shows : grid.Shows sheet pointing) (cell : Int × Int)
    (text : List Char) :
    ∃ next, (grid.changeItem cell.1 cell.2 fun item => item.setText text) = some next ∧
      next.Shows (sheet.withText cell text) pointing := by
  obtain ⟨cells, represents, colored⟩ := shows.colored
  by_cases inside : cell ∈ Pointing.cells sheet.rows sheet.columns
  · obtain ⟨x, y, rfl, inColumns, inRows⟩ := Pointing.exists_of_mem_cells inside
    obtain ⟨gridItems, changes, holds⟩ :=
      represents.changeCell_eq inColumns inRows fun item => item.setText text
    refine ⟨{ grid with gridItems := gridItems }, changes, ⟨_, holds, ?_⟩, shows.within,
      shows.focus, shows.held, shows.idle, shows.null⟩
    intro otherX otherY inside below
    obtain ⟨same, marked⟩ := colored otherX otherY inside below
    dsimp only [Tables.put, Sheet.withText]
    by_cases here : otherX = x ∧ otherY = y
    · obtain ⟨rfl, rfl⟩ := here
      rw [if_pos ⟨rfl, rfl⟩, if_pos rfl]
      refine ⟨?_, marked⟩
      rw [same]
      rfl
    · have elsewhere : ((otherX : Int), (otherY : Int)) ≠ ((x : Int), (y : Int)) := by
        rw [ne_eq, Prod.mk.injEq]
        omega
      rw [if_neg here, if_neg elsewhere]
      exact ⟨same, marked⟩
  · have outside : ¬ grid.inGrid cell.1 cell.2 = true := by
      rw [shows.inGrid_iff]
      exact inside
    refine ⟨{ grid with nullItem := grid.nullItem.setText text }, ?_, ⟨cells, ?_, ?_⟩,
      shows.within, shows.focus, shows.held, shows.idle, shows.null⟩
    · rw [changeItem, if_neg outside]
    · exact ⟨represents.numRows, represents.numColumns, represents.stored, represents.null⟩
    · intro x y inColumns inRows
      have elsewhere : ((x : Int), (y : Int)) ≠ cell := by
        rintro rfl
        exact inside ⟨Int.natCast_nonneg x, Int.ofNat_lt.mpr inColumns, Int.natCast_nonneg y,
          Int.ofNat_lt.mpr inRows⟩
      dsimp only [Sheet.withText]
      rw [if_neg elsewhere]
      exact colored x y inColumns inRows

theorem Shows.keyDown (shows : grid.Shows sheet pointing) (key : GVKey) (answers : EditAnswers) :
    ∃ next, grid.keyDown virtual answers key = some next ∧
      next.Shows sheet (pointing.keyDown virtual sheet.rows sheet.columns key) := by
  obtain ⟨cleared, deselects, holds⟩ := shows.deselectAll answers
  have free : (!grid.editing || virtual.allowKeyNavDuringEdit key) = true := by
    rw [shows.idle]
    rfl
  obtain ⟨cells, represents, -⟩ := holds.colored
  rw [keyDown_eq, navigate, if_pos free, deselects, Option.bind_some, Pointing.keyDown,
    focusFirst, Pointing.focusFirst, represents.numRows, represents.numColumns, holds.focus]
  dsimp only [Pointing.deselect]
  split
  · rename_i x y found
    rw [found]
    exact holds.focusItem (x, y) answers
  · rename_i missing
    rw [missing]
    exact ⟨cleared, rfl, holds⟩

end Shown

end GridView

namespace Pointing

/-! The focus stays on cells. -/

section Placing

variable {rows columns : Nat} {pointing : Pointing} (virtual : GridOverrides)

theorem Placed.focusOn (placed : pointing.Placed rows columns) (cell : Int × Int) :
    (pointing.focusOn rows columns virtual cell).Placed rows columns := by
  rw [Pointing.focusOn]
  split
  · rename_i moves
    exact Or.inr moves.1
  · exact placed

theorem Placed.focusFirst (placed : pointing.Placed rows columns) (cells : List (Int × Int)) :
    (pointing.focusFirst virtual rows columns cells).Placed rows columns := by
  rw [Pointing.focusFirst]
  split
  · exact placed.focusOn virtual _
  · exact placed

theorem Placed.pressOn (placed : pointing.Placed rows columns) (click : GridView.Click)
    (cell : Int × Int) :
    (pointing.pressOn rows columns virtual click cell).Placed rows columns := by
  have cleared : pointing.deselect.Placed rows columns := placed
  rw [Pointing.pressOn]
  split
  · exact placed
  · exact placed
  · split
    · split
      · exact placed
      · exact placed
    · exact placed.focusOn virtual cell
  · exact cleared.focusOn virtual cell

theorem Placed.press (placed : pointing.Placed rows columns) (click : GridView.Click) :
    (pointing.press rows columns virtual click).Placed rows columns := by
  rw [Pointing.press]
  split
  · rename_i cell _
    split
    · exact placed.pressOn virtual click cell
    · exact placed
  · have cleared : Placed rows columns { pointing.deselect with focus := (-1, -1) } := Or.inl rfl
    dsimp only
    split
    · rename_i cell _
      exact cleared.focusOn virtual cell
    · exact cleared

theorem kept_focus (click : GridView.Click) : (pointing.kept click).focus = pointing.focus := by
  rw [kept]
  split
  · rfl
  · rfl

theorem dragTo_focus (click : GridView.Click) :
    (pointing.dragTo rows columns virtual click).focus = pointing.focus := by
  rw [dragTo]
  split
  · split
    · exact kept_focus click
    · exact kept_focus click
  · split
    · exact kept_focus click
    · rfl

end Placing

end Pointing

/-- What goes on without a press of the button. -/
def MouseInput.Goes : MouseInput → Prop
  | .lButtonDown _ _ => False
  | _ => True

theorem Pointing.step_focus {rows columns : Nat} {pointing : Pointing} (virtual : GridOverrides)
    {input : MouseInput} (goes : input.Goes) :
    (pointing.step rows columns virtual input).focus = pointing.focus := by
  cases input with
  | lButtonDown click answers => exact goes.elim
  | mouseMove click buttonHeld answers =>
      rw [step]
      split
      · split
        · exact kept_focus click
        · rfl
      · rfl
  | mouseHover click answers =>
      rw [step]
      split
      · exact dragTo_focus virtual click
      · rfl
  | lButtonUp click answers =>
      rw [step]
      split
      · exact dragTo_focus virtual click
      · rfl

namespace CellEntry

section Closing

variable (entry : CellEntry) (answers : GridControl.BoxAnswers)

@[simp] theorem close_draft : (entry.close answers).draft = none := by
  rw [close]
  split
  · rfl
  · assumption

@[simp] theorem close_pointing : (entry.close answers).pointing = entry.pointing := by
  rw [close]
  split
  · rfl
  · rfl

@[simp] theorem close_forwards : (entry.close answers).forwards = entry.forwards := by
  rw [close]
  split
  · rfl
  · rfl

@[simp] theorem close_rows : (entry.close answers).sheet.rows = entry.sheet.rows := by
  rw [close]
  split
  · dsimp only
    split
    · rfl
    · rfl
  · rfl

@[simp] theorem close_columns : (entry.close answers).sheet.columns = entry.sheet.columns := by
  rw [close]
  split
  · dsimp only
    split
    · rfl
    · rfl
  · rfl

end Closing

end CellEntry

end LeanMiniViews
