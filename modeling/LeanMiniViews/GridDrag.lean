import LeanMiniViews.GridMouse
import LeanMiniViews.GridSelection

/-!
A drag from one cell to another: however the pointer got there, the rectangle between the two
cells is what is selected, and the tests of the selection say so.
-/

namespace LeanMiniViews

namespace GridView

def getSelTopLeft (grid : GridView) : Option (Option (Nat × Nat)) :=
  Loops.find (fun cell => grid.isMarked cell.1 cell.2)
    (rowMajor 0 0 grid.numColumns.toNat grid.numRows.toNat)

end GridView

namespace MouseInput

/-- The pointer moves or rests while the button is down. -/
def Drags : MouseInput → Prop
  | mouseMove _ _ _ => True
  | mouseHover _ _ => True
  | _ => False

instance : DecidablePred Drags
  | mouseMove _ _ _ => .isTrue trivial
  | mouseHover _ _ => .isTrue trivial
  | lButtonDown _ _ => .isFalse id
  | lButtonUp _ _ => .isFalse id

end MouseInput

namespace Pointing

variable {rows columns : Nat} {virtual : GridOverrides}

/-- The cell that a point stands for at the end of a drag. -/
def target (rows columns : Nat) (click : GridView.Click) : Option (Int × Int) :=
  if isOutside rows columns click then edgeCell rows columns click else click.itemAt

theorem dragTo_of_target (pointing : Pointing) {click : GridView.Click} {cell : Int × Int}
    (released : click.control = false) (there : target rows columns click = some cell) :
    pointing.dragTo rows columns virtual click =
      { pointing with selected := pointing.square rows columns virtual cell } := by
  have kept : pointing.kept click = pointing.deselect := by
    rw [kept, released, if_neg Bool.false_ne_true]
  have drawn : pointing.deselect.drawTo rows columns virtual cell =
      { pointing with selected := pointing.square rows columns virtual cell } := by
    rw [drawTo, select, deselect]
    congr 1
    exact Set.empty_union _
  rw [target] at there
  rw [dragTo, kept]
  split
  · rename_i outside
    rw [if_pos outside] at there
    rw [there]
    exact drawn
  · rename_i within
    rw [if_neg within] at there
    rw [there]
    exact drawn

/-- Focus and button stay where they are while the pointer moves. -/
theorem step_drags (pointing : Pointing) {event : MouseInput} (drags : event.Drags) :
    (pointing.step rows columns virtual event).focus = pointing.focus ∧
      (pointing.step rows columns virtual event).held = pointing.held := by
  have keptFocus (click : GridView.Click) : (pointing.kept click).focus = pointing.focus ∧
      (pointing.kept click).held = pointing.held := by
    rw [kept]
    split
    · exact ⟨rfl, rfl⟩
    · exact ⟨rfl, rfl⟩
  cases event with
  | lButtonDown click answers => exact drags.elim
  | lButtonUp click answers => exact drags.elim
  | mouseMove click buttonHeld answers =>
      rw [step]
      split
      · split
        · exact keptFocus click
        · exact ⟨rfl, rfl⟩
      · exact ⟨rfl, rfl⟩
  | mouseHover click answers =>
      rw [step]
      split
      · rw [dragTo]
        split
        · split
          · exact keptFocus click
          · exact keptFocus click
        · split
          · exact keptFocus click
          · exact ⟨rfl, rfl⟩
      · exact ⟨rfl, rfl⟩

theorem foldl_drags {moves : List MouseInput} (drag : ∀ event ∈ moves, event.Drags)
    (pointing : Pointing) :
    (moves.foldl (step rows columns virtual) pointing).focus = pointing.focus ∧
      (moves.foldl (step rows columns virtual) pointing).held = pointing.held := by
  induction moves generalizing pointing with
  | nil => exact ⟨rfl, rfl⟩
  | cons event rest ih =>
      obtain ⟨focus, held⟩ := ih (fun later member => drag later (List.mem_cons_of_mem _ member))
        (pointing.step rows columns virtual event)
      obtain ⟨sameFocus, sameHeld⟩ :=
        pointing.step_drags (drag event List.mem_cons_self)
      exact ⟨focus.trans sameFocus, held.trans sameHeld⟩

theorem press_plain (pointing : Pointing) {click : GridView.Click} {start : Int × Int}
    (pressed : click.itemAt = some start) (noShift : click.shift = false)
    (noControl : click.control = false) (inside : start ∈ cells rows columns)
    (allowed : virtual.allowSel start.1 start.2 = true) :
    (pointing.press rows columns virtual click).focus = start ∧
      (pointing.press rows columns virtual click).held = true := by
  rw [press, pressed]
  dsimp only
  rw [if_pos allowed, pressOn, noShift, noControl]
  dsimp only
  rw [focusOn]
  by_cases moves : start ≠ pointing.focus
  · rw [if_pos ⟨inside, allowed, moves⟩]
    exact ⟨rfl, rfl⟩
  · rw [if_neg fun all => moves all.2.2]
    exact ⟨(not_not.mp moves).symm, rfl⟩

end Pointing

namespace GridView

/-! The selection of a grid that shows something. -/

section Marks

variable {grid : GridView} {sheet : Sheet} {pointing : Pointing}

theorem Shows.mem_selection (shows : grid.Shows sheet pointing) {cell : Nat × Nat} :
    cell ∈ grid.selection ↔
      ((cell.1 : Int), (cell.2 : Int)) ∈ Pointing.cells sheet.rows sheet.columns ∧
        (((cell.1 : Int), (cell.2 : Int)) = pointing.focus ∨
          ((cell.1 : Int), (cell.2 : Int)) ∈ pointing.selected) := by
  obtain ⟨item, found, marked⟩ := shows.item_eq cell.1 cell.2
  have focused : grid.isFocused cell.1 cell.2 = true ↔
      ((cell.1 : Int), (cell.2 : Int)) = pointing.focus := by
    rw [isFocused, Bool.and_eq_true, decide_eq_true_eq, decide_eq_true_eq, ← shows.focus,
      Prod.ext_iff]
  change grid.inGrid cell.1 cell.2 = true ∧ grid.isMarked cell.1 cell.2 = some true ↔ _
  rw [shows.inGrid_iff, isMarked]
  apply and_congr_right
  intro _
  by_cases here : ((cell.1 : Int), (cell.2 : Int)) = pointing.focus
  · rw [if_pos (focused.mpr here)]
    exact iff_of_true rfl (Or.inl here)
  · rw [if_neg fun same => here (focused.mp same), found, Option.map_some, Option.some.injEq,
      marked, or_iff_right here]

theorem Represents.getSelTopLeft_eq (represents : grid.Represents sheet) {area : Rectangle}
    (whole : grid.selection = area.cells) (across : area.left ≤ area.right)
    (down : area.top ≤ area.bottom) :
    grid.getSelTopLeft = some (some (area.left, area.top)) := by
  have columns : grid.numColumns.toNat = sheet.columns := by
    rw [represents.numColumns, Int.toNat_natCast]
  have rows : grid.numRows.toNat = sheet.rows := by rw [represents.numRows, Int.toNat_natCast]
  have tested : ∀ cell ∈ rowMajor 0 0 sheet.columns sheet.rows,
      grid.isMarked cell.1 cell.2 = some (grid.mark sheet cell) := by
    intro cell member
    exact (represents.isMarked_eq member).2
  rw [getSelTopLeft, columns, rows, Loops.find_eq tested]
  have corner : (area.left, area.top) ∈ grid.selection := by
    rw [whole]
    exact ⟨le_rfl, across, le_rfl, down⟩
  obtain ⟨member, marked⟩ := represents.mem_selection.mp corner
  cases first : (rowMajor 0 0 sheet.columns sheet.rows).find? (grid.mark sheet) with
  | none => exact absurd marked (List.find?_eq_none.mp first _ member)
  | some found =>
      have inside : found ∈ area.cells := by
        rw [← whole]
        exact represents.mem_selection.mpr
          ⟨List.mem_of_find?_eq_some first, List.find?_some first⟩
      obtain same | before := RowMajor.find?_first (rowMajor_pairwise _ _ _ _) first _ member marked
      · rw [same]
      · rw [Rectangle.mem_cells] at inside
        rw [RowMajor.Precedes] at before
        dsimp only at before
        omega

theorem Represents.isSelectionRectangular_of_cells (represents : grid.Represents sheet)
    {area : Rectangle} (whole : grid.selection = area.cells) (across : area.left ≤ area.right)
    (down : area.top ≤ area.bottom) : grid.isSelectionRectangular = some true := by
  obtain ⟨result, tested, passes⟩ := represents.isSelectionRectangular_eq
  rw [tested, passes.mpr]
  refine ⟨area, ?_, ?_, ?_, ?_⟩
  · rw [whole]
    exact ⟨le_rfl, across, le_rfl, down⟩
  · rw [whole]
    exact ⟨across, le_rfl, down, le_rfl⟩
  · rw [whole]
  · intro x y left right above below
    rw [whole]
    exact ⟨left, right.le, above, below.le⟩

end Marks

/-- The rectangle between two cells. -/
def between (start finish : Int × Int) : Rectangle where
  left := (min start.1 finish.1).toNat
  top := (min start.2 finish.2).toNat
  right := (max start.1 finish.1).toNat
  bottom := (max start.2 finish.2).toNat

/-- A press on one cell and a release on another, without the keys that keep a selection, and
with a descendant that allows it and does not adjust it. -/
structure PlainDrag (virtual : GridOverrides) (rows columns : Nat) (start finish : Int × Int)
    (pressed released : Click) : Prop where
  starts : start ∈ Pointing.cells rows columns
  finishes : finish ∈ Pointing.cells rows columns
  allowed : virtual.allowSel start.1 start.2 = true
  square : virtual.allowSelSquare (min start.1 finish.1) (max start.1 finish.1)
    (min start.2 finish.2) (max start.2 finish.2) = true
  unadjusted : ∀ area, virtual.adjustSel area = area
  pressedAt : pressed.itemAt = some start
  noShift : pressed.shift = false
  noControl : pressed.control = false
  releasedAt : Pointing.target rows columns released = some finish
  stillNoControl : released.control = false

theorem PlainDrag.adjusts {virtual : GridOverrides} {rows columns : Nat} {start finish : Int × Int}
    {pressed released : Click}
    (drag : PlainDrag virtual rows columns start finish pressed released) :
    virtual.AdjustsInside rows columns := by
  intro left right top bottom _ topLeft bottomRight across down
  rw [drag.unadjusted]
  exact base_adjustsInside rows columns left right top bottom rfl topLeft bottomRight across down

theorem PlainDrag.foldl_eq {virtual : GridOverrides} {rows columns : Nat}
    {start finish : Int × Int} {pressed released : Click}
    (drag : PlainDrag virtual rows columns start finish pressed released) (pointing : Pointing)
    {moves : List MouseInput} (moving : ∀ event ∈ moves, event.Drags)
    (first last : EditAnswers) :
    (.lButtonDown pressed first :: (moves ++ [.lButtonUp released last])).foldl
        (Pointing.step rows columns virtual) pointing =
      ⟨start, Set.uIcc start finish, false⟩ := by
  obtain ⟨pressFocus, pressHeld⟩ := pointing.press_plain drag.pressedAt drag.noShift
    drag.noControl drag.starts drag.allowed
  obtain ⟨focus, held⟩ := @Pointing.foldl_drags rows columns virtual moves moving
    (pointing.press rows columns virtual pressed)
  rw [List.foldl_cons, List.foldl_append, List.foldl_cons, List.foldl_nil]
  change Pointing.step rows columns virtual
    (moves.foldl (Pointing.step rows columns virtual)
      (pointing.press rows columns virtual pressed)) _ = _
  generalize moves.foldl (Pointing.step rows columns virtual)
    (pointing.press rows columns virtual pressed) = moved at focus held
  have here : moved.focus = start := focus.trans pressFocus
  have drags : moved.Drags := by
    obtain ⟨left, -, top, -⟩ := drag.starts
    rw [Pointing.Drags, here]
    exact ⟨held.trans pressHeld, by omega, by omega⟩
  have drawn : moved.square rows columns virtual finish = Set.uIcc start finish := by
    rw [Pointing.square, here, if_pos ⟨drag.starts, drag.finishes⟩]
    have allowed : virtual.allowSelSquare (start ⊓ finish).1 (start ⊔ finish).1
        (start ⊓ finish).2 (start ⊔ finish).2 = true := drag.square
    simp only [allowed, drag.unadjusted, if_true]
    rfl
  rw [Pointing.step, if_pos drags, moved.dragTo_of_target drag.stillNoControl drag.releasedAt,
    drawn, here]

theorem between_cells {rows columns : Nat} {start finish : Int × Int}
    (starts : start ∈ Pointing.cells rows columns)
    (finishes : finish ∈ Pointing.cells rows columns) (cell : Nat × Nat) :
    cell ∈ (between start finish).cells ↔
      ((cell.1 : Int), (cell.2 : Int)) ∈ Set.uIcc start finish := by
  obtain ⟨startLeft, -, startTop, -⟩ := starts
  obtain ⟨finishLeft, -, finishTop, -⟩ := finishes
  rw [Rectangle.mem_cells]
  change _ ↔ ((min start.1 finish.1 ≤ cell.1 ∧ min start.2 finish.2 ≤ cell.2) ∧
    (cell.1 : Int) ≤ max start.1 finish.1 ∧ (cell.2 : Int) ≤ max start.2 finish.2)
  dsimp only [between]
  omega

/-- Wherever the pointer went in between, a drag selects the rectangle from the cell where it
began to the one where it ended, and the grid knows this selection for a rectangle with its
first corner. -/
theorem drag_selects_rectangle (virtual : GridOverrides) (grid : GridView) (sheet : Sheet)
    (represents : grid.Represents sheet) (idle : grid.editing = false)
    (null : grid.nullItem.selected = false) (start finish : Int × Int) (pressed released : Click)
    (drag : PlainDrag virtual sheet.rows sheet.columns start finish pressed released)
    (moves : List MouseInput) (moving : ∀ event ∈ moves, event.Drags)
    (first last : EditAnswers) :
    ∃ dragged, Runs.final (mouse virtual) grid
        (.lButtonDown pressed first :: (moves ++ [.lButtonUp released last])) = some dragged ∧
      (dragged.focusedX, dragged.focusedY) = start ∧ dragged.lButtonIsDown = false ∧
      dragged.selection = (between start finish).cells ∧
      dragged.isSelectionRectangular = some true ∧
      dragged.getSelTopLeft =
        some (some ((between start finish).left, (between start finish).top)) := by
  have kept (grid : GridView) (pointing : Pointing) (event : MouseInput)
      (shows : grid.Shows sheet pointing) := shows.mouse drag.adjusts event
  obtain ⟨dragged, reached, shows⟩ := Runs.final_simulates kept (represents.shows idle null)
    (.lButtonDown pressed first :: (moves ++ [.lButtonUp released last]))
  rw [drag.foldl_eq (grid.pointing sheet) moving first last] at shows
  have whole : dragged.selection = (between start finish).cells := by
    ext cell
    rw [shows.mem_selection, between_cells drag.starts drag.finishes]
    constructor
    · rintro ⟨-, same | inside⟩
      · rw [same]
        exact Set.left_mem_uIcc
      · exact inside
    · intro inside
      exact ⟨uIcc_subset drag.starts drag.finishes inside, Or.inr inside⟩
  have across : (between start finish).left ≤ (between start finish).right := by
    dsimp only [between]
    omega
  have down : (between start finish).top ≤ (between start finish).bottom := by
    dsimp only [between]
    omega
  obtain ⟨cell, stored, -⟩ := shows.colored
  exact ⟨dragged, reached, shows.focus, shows.held, whole,
    stored.isSelectionRectangular_of_cells whole across down,
    stored.getSelTopLeft_eq whole across down⟩

theorem drag_selects_rectangle_backwards :
    ∃ dragged, Runs.final (mouse .base) (ofTable 3 4 fun _ _ => .blank)
        (.lButtonDown (plainClick (3, 2)) silentAnswers ::
          ([.mouseHover (plainClick (0, 0)) silentAnswers] ++
            [.lButtonUp (plainClick (1, 1)) silentAnswers])) = some dragged ∧
      (dragged.focusedX, dragged.focusedY) = (3, 2) ∧ dragged.lButtonIsDown = false ∧
      dragged.selection = (between (3, 2) (1, 1)).cells ∧
      dragged.isSelectionRectangular = some true ∧
      dragged.getSelTopLeft = some (some (1, 1)) :=
  drag_selects_rectangle .base _ ⟨3, 4, fun _ _ => .blank⟩
    (ofTable_represents (by decide) (by decide) _) rfl rfl (3, 2) (1, 1) _ _
    ⟨by decide, by decide, rfl, rfl, fun _ => rfl, rfl, rfl, rfl, by decide, rfl⟩ _
    (by decide) _ _

end GridView

end LeanMiniViews
