import LeanMiniViews.GridDeletion

/-!
Editing in a grid: a box over the focused cell that is opened by a character or a double click,
and closed whenever the grid gets the keyboard back, the focus moves or the parent asks for it.
-/

namespace LeanMiniViews

/-- A grid as a window: its edit box while there is one, with the text in it, and whether the
grid itself has the keyboard. -/
structure GridControl where
  grid : GridView
  editBox : Option (List Char)
  forwardArrowKeys : Bool
  hasFocus : Bool
deriving DecidableEq, Repr

namespace GridControl

/-- Whether the text of the box can be got, what the parent says to it, and whether the keyboard
comes back to the grid once the box is gone. -/
structure BoxAnswers where
  readable : Bool
  changing : GridView.Changing
  regains : Bool
deriving DecidableEq, Repr

def BoxAnswers.str (answers : BoxAnswers) (text : List Char) : Option (List Char) :=
  if answers.readable then answers.changing.str text else none

def editAnswers (control : GridControl) (answers : BoxAnswers) : GridView.EditAnswers where
  text := if answers.readable then some (control.editBox.getD []) else none
  destroyed := control.editBox.isSome
  changing := answers.changing

/-- Only `EndEditing` leaves the editing, and it has destroyed the box then. -/
def handled (control : GridControl) (answers : BoxAnswers) (grid : GridView) : GridControl :=
  if control.grid.editing && !grid.editing then
    { control with
      grid := grid
      editBox := none
      hasFocus := control.hasFocus || answers.regains }
  else { control with grid := grid }

def handle (control : GridControl) (answers : BoxAnswers)
    (handler : GridView → GridView.EditAnswers → Option GridView) : Option GridControl :=
  (handler control.grid (control.editAnswers answers)).map (control.handled answers)

def endEditing (control : GridControl) (answers : BoxAnswers) : Option GridControl :=
  control.handle answers GridView.endEditing

def setFocus (control : GridControl) (answers : BoxAnswers) : Option GridControl :=
  (control.endEditing answers).map fun control => { control with hasFocus := true }

/-- `WM_SETFOCUS` comes to a window that does not have the keyboard yet. -/
def focusThis (control : GridControl) (answers : BoxAnswers) : Option GridControl :=
  if control.hasFocus then some control else control.setFocus answers

def killFocus (control : GridControl) : GridControl := { control with hasFocus := false }

/-- The caret itself is left out: the box gets the keyboard. -/
def setCaretPos (control : GridControl) : GridControl := control.killFocus

/-- Whether the focused cell has a place and a box is created there, the cell at the point
clicked, and whether neither coordinate of that point is negative. -/
structure Opening where
  created : Bool
  itemAt : Option (Int × Int)
  inside : Bool
deriving DecidableEq, Repr

def backspace : List Char := [Char.ofNat 8]

def startEditing (control : GridControl) (initChar : List Char) (opening : Opening) :
    Option GridControl :=
  if !control.grid.editing && opening.created then
    let opened : GridControl :=
      { control with grid := { control.grid with editing := true }, editBox := some [] }
    if initChar = [] then
      match opening.itemAt with
      | some (x, y) =>
          (control.grid.item x y).map fun item =>
            let shown : GridControl := { opened with editBox := some item.text }
            if opening.inside then shown.setCaretPos else shown
      | none => some opened
    else if initChar = backspace then some opened.setCaretPos
    else
      let typed : GridControl :=
        { opened with forwardArrowKeys := true, editBox := some initChar }
      some typed.setCaretPos
  else some control

def setEditText (control : GridControl) (text : List Char) : GridControl :=
  if control.grid.editing then { control with editBox := some text }.setCaretPos else control

def keyDown (virtual : GridOverrides) (control : GridControl) (key : GVKey)
    (answers : BoxAnswers) : Option GridControl :=
  control.handle answers fun grid answers => grid.keyDown virtual answers key

def deleteSelection (control : GridControl) (accepts : Nat × Nat → Bool) : Option GridControl :=
  (control.grid.deleteSelection accepts).map fun deletion => { control with grid := deletion.1 }

def char (control : GridControl) (controlKey : Bool) (character : List Char) (opening : Opening) :
    Option GridControl :=
  -- the point is `(-1, -1)`
  if controlKey then some control
  else control.startEditing character { opening with inside := false }

def lButtonDown (virtual : GridOverrides) (control : GridControl) (click : GridView.Click)
    (answers : BoxAnswers) : Option GridControl :=
  (control.focusThis answers).bind fun control =>
    control.handle answers fun grid answers => grid.lButtonDown virtual click answers

def lButtonDblClk (control : GridControl) (click : GridView.Click) (created : Bool) :
    Option GridControl :=
  match click.itemAt with
  | some (x, y) =>
      if x = control.grid.focusedX ∧ y = control.grid.focusedY then
        control.startEditing [] ⟨created, click.itemAt, true⟩
      else some control
  | none => some control

/-- `EditControl::ControlProc` for the arrow keys; the others have the window below do it. -/
def boxKeyDown (virtual : GridOverrides) (control : GridControl) (key : GVKey)
    (answers : BoxAnswers) : Option GridControl :=
  let isArrow := key = .gvLeft ∨ key = .gvUp ∨ key = .gvRight ∨ key = .gvDown
  if control.editBox.isSome ∧ control.forwardArrowKeys ∧ isArrow then
    control.keyDown virtual key answers
  else some control

def boxEdited (control : GridControl) (text : List Char) : GridControl :=
  if control.editBox.isSome then { control with editBox := some text } else control

end GridControl

inductive EditInput where
  | setFocus (answers : GridControl.BoxAnswers)
  | killFocus
  | endEditing (answers : GridControl.BoxAnswers)
  | focusItem (cell : Int × Int) (answers : GridControl.BoxAnswers)
  | keyDown (key : GVKey) (answers : GridControl.BoxAnswers)
  | deleteKey (accepts : Nat × Nat → Bool)
  | char (controlKey : Bool) (character : List Char) (opening : GridControl.Opening)
  | lButtonDown (click : GridView.Click) (answers : GridControl.BoxAnswers)
  | mouseMove (click : GridView.Click) (buttonHeld : Bool) (answers : GridControl.BoxAnswers)
  | mouseHover (click : GridView.Click) (answers : GridControl.BoxAnswers)
  | lButtonUp (click : GridView.Click) (answers : GridControl.BoxAnswers)
  | lButtonDblClk (click : GridView.Click) (created : Bool)
  | boxKeyDown (key : GVKey) (answers : GridControl.BoxAnswers)
  | boxEdited (text : List Char)
  | setEditText (text : List Char)

def GridControl.step (virtual : GridOverrides) (control : GridControl) :
    EditInput → Option GridControl
  | .setFocus answers => control.focusThis answers
  | .killFocus => some control.killFocus
  | .endEditing answers => control.endEditing answers
  | .focusItem cell answers =>
      control.handle answers fun grid answers => grid.focusItem virtual cell.1 cell.2 answers
  | .keyDown key answers => control.keyDown virtual key answers
  | .deleteKey accepts => control.deleteSelection accepts
  | .char controlKey character opening => control.char controlKey character opening
  | .lButtonDown click answers => control.lButtonDown virtual click answers
  | .mouseMove click buttonHeld answers =>
      control.handle answers fun grid answers => grid.mouseMove virtual click buttonHeld answers
  | .mouseHover click answers =>
      control.handle answers fun grid answers => grid.mouseHover virtual click answers
  | .lButtonUp click answers =>
      control.handle answers fun grid answers => grid.lButtonUp virtual click answers
  | .lButtonDblClk click created => control.lButtonDblClk click created
  | .boxKeyDown key answers => control.boxKeyDown virtual key answers
  | .boxEdited text => some (control.boxEdited text)
  | .setEditText text => some (control.setEditText text)

end LeanMiniViews
