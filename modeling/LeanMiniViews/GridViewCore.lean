import LeanMiniViews.Tables

/-!
`GridViewControl`: the cells of a grid, its focus, and what the mouse and the keys do to them.
The list view below it and the edit box are what they answer. Messages to the parent, the drawing
and the drag while the mouse moves are left out.
-/

namespace LeanMiniViews

structure GridControlItem where
  text : List Char
  disabled : Bool
  selected : Bool
  data : UInt32
deriving DecidableEq, Repr

namespace GridControlItem

def blank : GridControlItem := ⟨[], false, false, 0⟩

def setText (item : GridControlItem) (newText : List Char) : GridControlItem :=
  { item with text := newText }

def setSelected (item : GridControlItem) (isItemSelected : Bool) : GridControlItem :=
  { item with selected := isItemSelected }

end GridControlItem

inductive GVKey where
  | gvLeft
  | gvUp
  | gvRight
  | gvDown
  | gvReturn
  | gvTab
deriving DecidableEq, Repr

/-- The virtual functions that descendants may alter. -/
structure GridOverrides where
  allowKeyNavDuringEdit : GVKey → Bool
  allowSel : Int → Int → Bool
  allowSelSquare : Int → Int → Int → Int → Bool
  adjustSel : Int × Int × Int × Int → Int × Int × Int × Int

def GridOverrides.base : GridOverrides := ⟨fun _ => true, fun _ _ => true, fun _ _ _ _ => true, id⟩

structure GridView where
  gridItems : Option (List (List GridControlItem))
  numRows : Int
  numColumns : Int
  focusedX : Int
  focusedY : Int
  lButtonIsDown : Bool
  editing : Bool
  nullItem : GridControlItem
deriving DecidableEq, Repr

namespace GridView

def new : GridView := ⟨none, 0, 0, -1, -1, false, false, .blank⟩

def inGrid (grid : GridView) (x y : Int) : Bool :=
  0 ≤ y && y < grid.numRows && 0 ≤ x && x < grid.numColumns

def item (grid : GridView) (x y : Int) : Option GridControlItem :=
  if grid.inGrid x y then Tables.read grid.gridItems x y else some grid.nullItem

/-- A change of `item(x, y)`, which is the shared null item where there is no such cell. -/
def changeItem (grid : GridView) (x y : Int) (change : GridControlItem → GridControlItem) :
    Option GridView :=
  if grid.inGrid x y then
    (Tables.read grid.gridItems x y).bind fun item =>
      (Tables.write grid.gridItems x y (change item)).map fun gridItems =>
        { grid with gridItems := gridItems }
  else some { grid with nullItem := change grid.nullItem }

def isFocused (grid : GridView) (x y : Int) : Bool := x = grid.focusedX && y = grid.focusedY

/-! Rows and columns. -/

/-- Each row is read and deleted, then the rows. -/
def deleteRows (gridItems : Option (List (List GridControlItem))) (numRows : Int) : Option Unit :=
  Loops.times (fun y _ => (gridItems.bind fun rows => rows[y]?).map fun _ => ()) 0 numRows.toNat ()

/-- The answer, and the grid afterwards. `allocates` is whether no `new` throws. -/
def resize (grid : GridView) (newNumRows newNumColumns : Int) (allocates : Bool) :
    Option (Bool × GridView) :=
  if newNumRows > 0 ∧ newNumColumns > 0 then
    if allocates then
      let newGridItems := some (Tables.tabulate newNumRows.toNat newNumColumns.toNat
        fun _ _ => GridControlItem.blank)
      let maxCopyRow := min newNumRows grid.numRows
      let maxCopyColumn := min newNumColumns grid.numColumns
      (Loops.each maxCopyRow.toNat maxCopyColumn.toNat
        (fun x y copied => (Tables.read grid.gridItems x y).bind fun item =>
          Tables.write copied x y item) newGridItems).bind fun copied =>
        (deleteRows grid.gridItems grid.numRows).map fun _ =>
          (true, { grid with
            gridItems := copied
            numRows := newNumRows
            numColumns := newNumColumns })
    else some (false, grid)
  else if newNumRows = 0 ∨ newNumColumns = 0 then
    let deleted :=
      if grid.numRows > 0 ∧ grid.numColumns > 0 then deleteRows grid.gridItems grid.numRows
      else some ()
    deleted.map fun _ =>
      (true, { grid with
        gridItems := none
        numRows := newNumRows
        numColumns := newNumColumns })
  else some (false, grid)

def addColumn (grid : GridView) (allocates : Bool) : Option GridView :=
  (grid.resize grid.numRows (grid.numColumns + 1) allocates).map Prod.snd

def addRow (grid : GridView) (numColumnsInRow : Int) (allocates : Bool) : Option GridView :=
  (grid.resize (grid.numRows + 1) (max grid.numColumns numColumnsInRow) allocates).map Prod.snd

/-- The focus is not looked at. -/
def removeRow (grid : GridView) (rowNum : Int) (allocates : Bool) : Option GridView :=
  (Loops.each (grid.numRows - 1 - rowNum).toNat grid.numColumns.toNat
    (fun x y gridItems => (Tables.read gridItems x (rowNum + y + 1)).bind fun item =>
      Tables.write gridItems x (rowNum + y) item) grid.gridItems).bind fun gridItems =>
    ({ grid with gridItems := gridItems }.resize (grid.numRows - 1) grid.numColumns allocates).map
      Prod.snd

/-- `deletes` is what the list view answers. -/
def deleteAllItems (grid : GridView) (deletes allocates : Bool) : Option GridView :=
  if deletes then (grid.resize 0 grid.numColumns allocates).map Prod.snd else some grid

/-! Selection and focus. -/

/-- What the parent does with the text of the edit box. It has a pointer to it and may leave
another one there before it agrees. -/
inductive Changing where
  | prevented
  | allowed
  | altered (text : List Char)
deriving DecidableEq, Repr

/-- What `*str` is once the parent has answered `TRUE`. -/
def Changing.str (text : List Char) : Changing → Option (List Char)
  | .prevented => none
  | .allowed => some text
  | .altered text => some text

/-- What is answered while one message is handled: the text of the edit box, whether it is
destroyed, and what the parent says to the text. -/
structure EditAnswers where
  text : Option (List Char)
  destroyed : Bool
  changing : Changing
deriving DecidableEq, Repr

def endEditing (grid : GridView) (answers : EditAnswers) : Option GridView :=
  if grid.editing ∧ answers.destroyed then
    let ended := { grid with editing := false }
    match answers.text.bind fun text => answers.changing.str text with
    | some str => ended.changeItem grid.focusedX grid.focusedY fun item => item.setText str
    | none => some ended
  else some grid

def setSelected (gridItems : Option (List (List GridControlItem))) (x y : Int) (selected : Bool) :
    Option (Option (List (List GridControlItem))) :=
  (Tables.read gridItems x y).bind fun item =>
    Tables.write gridItems x y (item.setSelected selected)

def deselectAll (grid : GridView) (answers : EditAnswers) : Option GridView :=
  (grid.endEditing answers).bind fun grid =>
    (Loops.each grid.numRows.toNat grid.numColumns.toNat
      (fun x y gridItems => setSelected gridItems x y false) grid.gridItems).map fun gridItems =>
        { grid with gridItems := gridItems }

def selectCells (grid : GridView) (allowed : Int → Int → Bool) (xStart yStart xEnd yEnd : Int) :
    Option GridView :=
  (Loops.each (yEnd - yStart + 1).toNat (xEnd - xStart + 1).toNat
    (fun x y gridItems =>
      if allowed (xStart + x) (yStart + y) then
        setSelected gridItems (xStart + x) (yStart + y) true
      else some gridItems) grid.gridItems).map fun gridItems => { grid with gridItems := gridItems }

def selectSquareTo (grid : GridView) (virtual : GridOverrides) (x y : Int) : Option GridView :=
  if grid.inGrid x y then
    if grid.inGrid grid.focusedX grid.focusedY then
      grid.selectCells virtual.allowSel (min grid.focusedX x) (min grid.focusedY y)
        (max grid.focusedX x) (max grid.focusedY y)
    else grid.selectCells virtual.allowSel 0 0 x y
  else some grid

def selectSquare (grid : GridView) (virtual : GridOverrides) (xStart yStart xEnd yEnd : Int) :
    Option GridView :=
  if grid.inGrid xStart yStart ∧ grid.inGrid xEnd yEnd then
    let (left, right) := if xStart > xEnd then (xEnd, xStart) else (xStart, xEnd)
    let (top, bottom) := if yStart > yEnd then (yEnd, yStart) else (yStart, yEnd)
    if virtual.allowSelSquare left right top bottom then
      let (left, right, top, bottom) := virtual.adjustSel (left, right, top, bottom)
      grid.selectCells (fun _ _ => true) left top right bottom
    else some grid
  else some grid

def focusItem (grid : GridView) (virtual : GridOverrides) (x y : Int) (answers : EditAnswers) :
    Option GridView :=
  (grid.endEditing answers).bind fun grid =>
    if grid.inGrid x y ∧ virtual.allowSel x y then
      if x ≠ grid.focusedX ∨ y ≠ grid.focusedY then
        { grid with focusedX := x, focusedY := y }.changeItem x y fun item => item.setSelected true
      else some grid
    else some grid

/-! The mouse. -/

structure ContentHit where
  outsideLeft : Bool
  outsideTop : Bool
  outsideRight : Bool
  outsideBottom : Bool
deriving DecidableEq, Repr

/-- What the list view says of a point, and the keys that are held down. -/
structure Click where
  itemAt : Option (Int × Int)
  rowAt : Option Int
  columnAt : Option Int
  contentHit : Option ContentHit
  shift : Bool
  control : Bool
deriving DecidableEq, Repr

def contentHitTest (grid : GridView) (click : Click) : Option ContentHit :=
  if grid.numRows > 0 ∧ grid.numColumns > 0 then click.contentHit else none

def outsideCell (grid : GridView) (click : Click) (hit : ContentHit) : Option (Int × Int) :=
  if hit.outsideLeft && hit.outsideTop then some (0, 0)
  else if hit.outsideLeft && hit.outsideBottom then some (0, grid.numRows - 1)
  else if hit.outsideRight && hit.outsideTop then some (grid.numColumns - 1, 0)
  else if hit.outsideRight && hit.outsideBottom then
    some (grid.numColumns - 1, grid.numRows - 1)
  else if hit.outsideLeft then click.rowAt.map fun row => (0, row)
  else if hit.outsideTop then click.columnAt.map fun col => (col, 0)
  else if hit.outsideRight then click.rowAt.map fun row => (grid.numColumns - 1, row)
  else if hit.outsideBottom then click.columnAt.map fun col => (col, grid.numRows - 1)
  else none

def clickCell (grid : GridView) (virtual : GridOverrides) (x y : Int) (click : Click)
    (answers : EditAnswers) : Option GridView :=
  if click.shift && click.control then grid.selectSquareTo virtual x y
  else if click.shift then
    (grid.deselectAll answers).bind fun grid => grid.selectSquareTo virtual x y
  else if click.control then
    (grid.item x y).bind fun clicked =>
      if clicked.selected then
        if !grid.isFocused x y then grid.changeItem x y fun item => item.setSelected false
        else some grid
      else grid.focusItem virtual x y answers
  else (grid.deselectAll answers).bind fun grid => grid.focusItem virtual x y answers

def pressed (grid : GridView) : GridView := { grid with lButtonIsDown := true }

def lButtonDown (grid : GridView) (virtual : GridOverrides) (click : Click)
    (answers : EditAnswers) : Option GridView :=
  match click.itemAt with
  | some (x, y) =>
      if virtual.allowSel x y then
        (grid.clickCell virtual x y click answers).map pressed
      else some grid
  | none =>
      ({ grid with focusedX := -1, focusedY := -1 }.deselectAll answers).bind fun grid =>
        let focused : Option GridView :=
          match (grid.contentHitTest click).bind fun hit => grid.outsideCell click hit with
          | some (x, y) => grid.focusItem virtual x y answers
          | none => some grid
        focused.map pressed

/-- `created` is whether the focused cell has a place and an edit box is created there. -/
def lButtonDblClk (grid : GridView) (click : Click) (created : Bool) : GridView :=
  match click.itemAt with
  | some (x, y) =>
      if x = grid.focusedX ∧ y = grid.focusedY ∧ !grid.editing ∧ created then
        { grid with editing := true }
      else grid
  | none => grid

def ContentHit.isOutside (hit : ContentHit) : Bool :=
  hit.outsideLeft || hit.outsideTop || hit.outsideRight || hit.outsideBottom

def dragSelectTo (grid : GridView) (virtual : GridOverrides) (click : Click)
    (answers : EditAnswers) : Option GridView :=
  let deselected := if !click.control then grid.deselectAll answers else some grid
  match (grid.contentHitTest click).filter ContentHit.isOutside with
  | some hit =>
      deselected.bind fun grid =>
        match grid.outsideCell click hit with
        | some (x, y) => grid.selectSquare virtual grid.focusedX grid.focusedY x y
        | none => some grid
  | none =>
      match click.itemAt with
      | some (x, y) =>
          deselected.bind fun grid => grid.selectSquare virtual grid.focusedX grid.focusedY x y
      | none => some grid

def lButtonUp (grid : GridView) (virtual : GridOverrides) (click : Click)
    (answers : EditAnswers) : Option GridView :=
  if grid.lButtonIsDown ∧ !grid.editing ∧ grid.focusedX ≠ -1 ∧ grid.focusedY ≠ -1 then
    { grid with lButtonIsDown := false }.dragSelectTo virtual click answers
  else some grid

/-! The keys. -/

def ascending (lower bound : Int) : List Int :=
  (List.range (bound - lower).toNat).map fun i : Nat => lower + (i : Int)

def descending (upper : Int) : List Int :=
  (List.range (upper + 1).toNat).reverse.map fun i : Nat => (i : Int)

def cellsFrom (grid : GridView) (lower : Int) : List (Int × Int) :=
  (ascending lower grid.numRows).flatMap fun y =>
    (ascending 0 grid.numColumns).map fun x => (x, y)

/-- Only the first cell found is given to `FocusItem`, whatever becomes of it there. -/
def focusFirst (grid : GridView) (virtual : GridOverrides) (cells : List (Int × Int))
    (answers : EditAnswers) (otherwise : Option GridView) : Option GridView :=
  match cells.find? fun cell => virtual.allowSel cell.1 cell.2 with
  | some (x, y) => grid.focusItem virtual x y answers
  | none => otherwise

def navigate (grid : GridView) (virtual : GridOverrides) (key : GVKey) (answers : EditAnswers)
    (move : GridView → Option GridView) : Option GridView :=
  if !grid.editing || virtual.allowKeyNavDuringEdit key then
    (grid.deselectAll answers).bind move
  else some grid

def leftArrowKey (grid : GridView) (virtual : GridOverrides) (answers : EditAnswers) :
    Option GridView :=
  grid.navigate virtual .gvLeft answers fun grid =>
    let cells := (descending (grid.focusedX - 1)).map fun x => (x, grid.focusedY)
    grid.focusFirst virtual cells answers (some grid)

def upArrowKey (grid : GridView) (virtual : GridOverrides) (answers : EditAnswers) :
    Option GridView :=
  grid.navigate virtual .gvUp answers fun grid =>
    let cells := (descending (grid.focusedY - 1)).map fun y => (grid.focusedX, y)
    grid.focusFirst virtual cells answers (some grid)

def rightArrowKey (grid : GridView) (virtual : GridOverrides) (answers : EditAnswers) :
    Option GridView :=
  grid.navigate virtual .gvRight answers fun grid =>
    let cells := (ascending (grid.focusedX + 1) grid.numColumns).map fun x => (x, grid.focusedY)
    grid.focusFirst virtual cells answers (some grid)

def downArrowKey (grid : GridView) (virtual : GridOverrides) (answers : EditAnswers) :
    Option GridView :=
  grid.navigate virtual .gvDown answers fun grid =>
    let cells := (ascending (grid.focusedY + 1) grid.numRows).map fun y => (grid.focusedX, y)
    grid.focusFirst virtual cells answers (some grid)

def tabKey (grid : GridView) (virtual : GridOverrides) (answers : EditAnswers) :
    Option GridView :=
  grid.navigate virtual .gvTab answers fun grid =>
    let cells := (ascending (grid.focusedX + 1) grid.numColumns).map fun x => (x, grid.focusedY)
    grid.focusFirst virtual cells answers
      (grid.focusFirst virtual (grid.cellsFrom (grid.focusedY + 1)) answers (some grid))

def enterKey (grid : GridView) (virtual : GridOverrides) (answers : EditAnswers) :
    Option GridView :=
  grid.navigate virtual .gvReturn answers fun grid =>
    grid.focusFirst virtual (grid.cellsFrom (grid.focusedY + 1)) answers (some grid)

def keyDown (grid : GridView) (virtual : GridOverrides) (answers : EditAnswers) :
    GVKey → Option GridView
  | .gvLeft => grid.leftArrowKey virtual answers
  | .gvUp => grid.upArrowKey virtual answers
  | .gvRight => grid.rightArrowKey virtual answers
  | .gvDown => grid.downArrowKey virtual answers
  | .gvTab => grid.tabKey virtual answers
  | .gvReturn => grid.enterKey virtual answers

/-! The test of the selection. -/

def isMarked (grid : GridView) (x y : Int) : Option Bool :=
  if grid.isFocused x y then some true else (grid.item x y).map fun item => item.selected

def rowMajor (left top right bottom : Nat) : List (Nat × Nat) :=
  (List.range' top (bottom - top)).flatMap fun y =>
    (List.range' left (right - left)).map fun x => (x, y)

/-- The last two loops end in front of the last row and the last column. -/
def isSelectionRectangular (grid : GridView) : Option Bool :=
  let marked (cell : Nat × Nat) := grid.isMarked cell.1 cell.2
  let cells := rowMajor 0 0 grid.numColumns.toNat grid.numRows.toNat
  (Loops.find marked cells).bind fun topLeft =>
    (Loops.find marked cells.reverse).bind fun bottomRight =>
      match topLeft, bottomRight with
      | some (topLeftX, topLeftY), some (bottomRightX, bottomRightY) =>
          if bottomRightX < topLeftX then some false
          else
            let outside (cell : Nat × Nat) :=
              cell.1 < topLeftX || cell.1 > bottomRightX || cell.2 < topLeftY ||
                cell.2 > bottomRightY
            (Loops.find (fun cell => (marked cell).map fun found => found && outside cell)
              cells).bind fun strayed =>
              if strayed.isSome then some false
              else
                (Loops.find (fun cell => (marked cell).map fun found => !found)
                  (rowMajor topLeftX topLeftY bottomRightX bottomRightY)).map fun hole =>
                  hole.isNone
      | _, _ => some false

end GridView

end LeanMiniViews
