import LeanMiniViews.GridViewCore
import LeanMiniViews.Runs

/-!
The focus of a grid: no cell, or one that is there. The handlers give it to cells only, and rows
are removed under it.
-/

namespace LeanMiniViews

inductive GridInput where
  | addColumn (allocates : Bool)
  | addRow (numColumnsInRow : Int) (allocates : Bool)
  | removeRow (rowNum : Int) (allocates : Bool)
  | deleteAllItems (deletes allocates : Bool)
  | focusItem (x y : Int) (answers : GridView.EditAnswers)
  | lButtonDown (click : GridView.Click) (answers : GridView.EditAnswers)
  | lButtonDblClk (click : GridView.Click) (created : Bool)
  | lButtonUp (click : GridView.Click) (answers : GridView.EditAnswers)
  | keyDown (key : GVKey) (answers : GridView.EditAnswers)
deriving DecidableEq, Repr

namespace GridView

def input (virtual : GridOverrides) (grid : GridView) : GridInput → Option GridView
  | .addColumn allocates => grid.addColumn allocates
  | .addRow numColumnsInRow allocates => grid.addRow numColumnsInRow allocates
  | .removeRow rowNum allocates => grid.removeRow rowNum allocates
  | .deleteAllItems deletes allocates => grid.deleteAllItems deletes allocates
  | .focusItem x y answers => grid.focusItem virtual x y answers
  | .lButtonDown click answers => grid.lButtonDown virtual click answers
  | .lButtonDblClk click created => some (grid.lButtonDblClk click created)
  | .lButtonUp click answers => grid.lButtonUp virtual click answers
  | .keyDown key answers => grid.keyDown virtual answers key

def Unfocused (grid : GridView) : Prop := grid.focusedX = -1 ∧ grid.focusedY = -1

def FocusIsCell (grid : GridView) : Prop :=
  grid.Unfocused ∨ (0 ≤ grid.focusedX ∧ grid.focusedX < grid.numColumns ∧
    0 ≤ grid.focusedY ∧ grid.focusedY < grid.numRows)

/-- The row of the focus is still there afterwards: it is not the last one when a row goes,
whichever row that is, and not all rows go. -/
def SparesFocus (grid : GridView) : GridInput → Prop
  | .removeRow _ allocates =>
      grid.Unfocused ∨ grid.focusedY < grid.numRows - 1 ∨ (1 < grid.numRows ∧ allocates = false)
  | .deleteAllItems deletes _ => grid.Unfocused ∨ deletes = false
  | _ => True

instance (grid : GridView) : Decidable grid.Unfocused :=
  inferInstanceAs (Decidable (_ ∧ _))

instance (grid : GridView) : Decidable grid.FocusIsCell :=
  inferInstanceAs (Decidable (_ ∨ _))

instance (grid : GridView) : DecidablePred grid.SparesFocus
  | .removeRow _ _ => inferInstanceAs (Decidable (_ ∨ _ ∨ _))
  | .deleteAllItems _ _ => inferInstanceAs (Decidable (_ ∨ _))
  | .addColumn _ => .isTrue trivial
  | .addRow _ _ => .isTrue trivial
  | .focusItem _ _ _ => .isTrue trivial
  | .lButtonDown _ _ => .isTrue trivial
  | .lButtonDblClk _ _ => .isTrue trivial
  | .lButtonUp _ _ => .isTrue trivial
  | .keyDown _ _ => .isTrue trivial

theorem new_focusIsCell : new.FocusIsCell := .inl ⟨rfl, rfl⟩

/-! What leaves rows, columns and focus alone, and does not start to edit. -/

structure Keeps (grid next : GridView) : Prop where
  numRows : next.numRows = grid.numRows
  numColumns : next.numColumns = grid.numColumns
  focusedX : next.focusedX = grid.focusedX
  focusedY : next.focusedY = grid.focusedY
  editing : next.editing = true → grid.editing = true

theorem Keeps.refl (grid : GridView) : grid.Keeps grid := ⟨rfl, rfl, rfl, rfl, id⟩

section Frame

variable {grid middle next : GridView} {virtual : GridOverrides} {answers : EditAnswers}

theorem Keeps.trans (first : grid.Keeps middle) (second : middle.Keeps next) :
    grid.Keeps next where
  numRows := second.numRows.trans first.numRows
  numColumns := second.numColumns.trans first.numColumns
  focusedX := second.focusedX.trans first.focusedX
  focusedY := second.focusedY.trans first.focusedY
  editing edited := first.editing (second.editing edited)

theorem Keeps.validity_iff (keeps : grid.Keeps next) :
    next.FocusIsCell ↔ grid.FocusIsCell := by
  rw [FocusIsCell, FocusIsCell, Unfocused, Unfocused, keeps.numRows, keeps.numColumns,
    keeps.focusedX, keeps.focusedY]

theorem changeItem_keeps {x y : Int} {change : GridControlItem → GridControlItem}
    (changed : grid.changeItem x y change = some next) : grid.Keeps next := by
  by_cases inside : grid.inGrid x y = true
  · rw [changeItem, if_pos inside, Option.bind_eq_some_iff] at changed
    obtain ⟨item, -, changed⟩ := changed
    rw [Option.map_eq_some_iff] at changed
    obtain ⟨gridItems, -, rfl⟩ := changed
    exact ⟨rfl, rfl, rfl, rfl, id⟩
  · rw [changeItem, if_neg inside, Option.some.injEq] at changed
    exact changed ▸ ⟨rfl, rfl, rfl, rfl, id⟩

theorem endEditing_keeps (ended : grid.endEditing answers = some next) : grid.Keeps next := by
  by_cases ends : grid.editing = true ∧ answers.destroyed = true
  · rw [endEditing, if_pos ends] at ended
    dsimp only at ended
    split at ended
    · obtain ⟨numRows, numColumns, focusedX, focusedY, -⟩ := changeItem_keeps ended
      exact ⟨numRows, numColumns, focusedX, focusedY, fun _ => ends.1⟩
    · obtain rfl := Option.some.inj ended
      exact ⟨rfl, rfl, rfl, rfl, fun _ => ends.1⟩
  · rw [endEditing, if_neg ends, Option.some.injEq] at ended
    exact ended ▸ .refl grid

theorem deselectAll_keeps (deselected : grid.deselectAll answers = some next) :
    grid.Keeps next := by
  rw [deselectAll, Option.bind_eq_some_iff] at deselected
  obtain ⟨ended, ends, deselected⟩ := deselected
  rw [Option.map_eq_some_iff] at deselected
  obtain ⟨gridItems, -, rfl⟩ := deselected
  exact (endEditing_keeps ends).trans ⟨rfl, rfl, rfl, rfl, id⟩

theorem selectCells_keeps {allowed : Int → Int → Bool} {xStart yStart xEnd yEnd : Int}
    (selected : grid.selectCells allowed xStart yStart xEnd yEnd = some next) :
    grid.Keeps next := by
  rw [selectCells, Option.map_eq_some_iff] at selected
  obtain ⟨gridItems, -, rfl⟩ := selected
  exact ⟨rfl, rfl, rfl, rfl, id⟩

theorem selectSquareTo_keeps {x y : Int}
    (selected : grid.selectSquareTo virtual x y = some next) : grid.Keeps next := by
  rw [selectSquareTo] at selected
  split at selected
  · split at selected
    · exact selectCells_keeps selected
    · exact selectCells_keeps selected
  · exact Option.some.inj selected ▸ .refl grid

theorem selectSquare_keeps {xStart yStart xEnd yEnd : Int}
    (selected : grid.selectSquare virtual xStart yStart xEnd yEnd = some next) :
    grid.Keeps next := by
  rw [selectSquare] at selected
  split at selected
  · generalize (if xStart > xEnd then (xEnd, xStart) else (xStart, xEnd)) = across at selected
    generalize (if yStart > yEnd then (yEnd, yStart) else (yStart, yEnd)) = down at selected
    dsimp only at selected
    split at selected
    · exact selectCells_keeps selected
    · exact Option.some.inj selected ▸ .refl grid
  · exact Option.some.inj selected ▸ .refl grid

theorem dragSelectTo_keeps {click : Click}
    (selected : grid.dragSelectTo virtual click answers = some next) : grid.Keeps next := by
  have deselected_keeps {middle : GridView}
      (deselected : (if (!click.control) = true then grid.deselectAll answers else some grid) =
        some middle) : grid.Keeps middle := by
    split at deselected
    · exact deselectAll_keeps deselected
    · exact Option.some.inj deselected ▸ .refl grid
  rw [dragSelectTo] at selected
  split at selected
  · rw [Option.bind_eq_some_iff] at selected
    obtain ⟨middle, deselected, selected⟩ := selected
    split at selected
    · exact (deselected_keeps deselected).trans (selectSquare_keeps selected)
    · exact Option.some.inj selected ▸ deselected_keeps deselected
  · split at selected
    · rw [Option.bind_eq_some_iff] at selected
      obtain ⟨middle, deselected, selected⟩ := selected
      exact (deselected_keeps deselected).trans (selectSquare_keeps selected)
    · exact Option.some.inj selected ▸ .refl grid

theorem lButtonUp_keeps {click : Click}
    (released : grid.lButtonUp virtual click answers = some next) : grid.Keeps next := by
  rw [lButtonUp] at released
  split at released
  · have drags := dragSelectTo_keeps released
    exact ⟨drags.numRows, drags.numColumns, drags.focusedX, drags.focusedY, drags.editing⟩
  · exact Option.some.inj released ▸ .refl grid

end Frame

/-! What gives the focus to a cell. -/

section Focus

variable {grid next : GridView} {virtual : GridOverrides} {answers : EditAnswers}

theorem focusItem_focusIsCell {x y : Int} (holds : grid.FocusIsCell)
    (focused : grid.focusItem virtual x y answers = some next) : next.FocusIsCell := by
  rw [focusItem, Option.bind_eq_some_iff] at focused
  obtain ⟨ended, ends, focused⟩ := focused
  have same := (endEditing_keeps ends).validity_iff.mpr holds
  split at focused
  · rename_i inside
    split at focused
    · rw [(changeItem_keeps focused).validity_iff]
      have bounds := inside.1
      simp only [inGrid, Bool.and_eq_true, decide_eq_true_eq] at bounds
      exact .inr ⟨bounds.1.2, bounds.2, bounds.1.1.1, bounds.1.1.2⟩
    · exact Option.some.inj focused ▸ same
  · exact Option.some.inj focused ▸ same

theorem clickCell_focusIsCell {x y : Int} {click : Click} (holds : grid.FocusIsCell)
    (clicked : grid.clickCell virtual x y click answers = some next) : next.FocusIsCell := by
  rw [clickCell] at clicked
  split at clicked
  · exact (selectSquareTo_keeps clicked).validity_iff.mpr holds
  · split at clicked
    · rw [Option.bind_eq_some_iff] at clicked
      obtain ⟨middle, deselected, clicked⟩ := clicked
      have keeps := (deselectAll_keeps deselected).trans (selectSquareTo_keeps clicked)
      exact keeps.validity_iff.mpr holds
    · split at clicked
      · rw [Option.bind_eq_some_iff] at clicked
        obtain ⟨item, -, clicked⟩ := clicked
        split at clicked
        · split at clicked
          · exact (changeItem_keeps clicked).validity_iff.mpr holds
          · exact Option.some.inj clicked ▸ holds
        · exact focusItem_focusIsCell holds clicked
      · rw [Option.bind_eq_some_iff] at clicked
        obtain ⟨middle, deselected, clicked⟩ := clicked
        have kept := (deselectAll_keeps deselected).validity_iff.mpr holds
        exact focusItem_focusIsCell kept clicked

theorem pressed_focusIsCell (holds : grid.FocusIsCell) : grid.pressed.FocusIsCell := holds

theorem lButtonDown_focusIsCell {click : Click} (holds : grid.FocusIsCell)
    (clicked : grid.lButtonDown virtual click answers = some next) : next.FocusIsCell := by
  rw [lButtonDown] at clicked
  split at clicked
  · split at clicked
    · rw [Option.map_eq_some_iff] at clicked
      obtain ⟨focused, clicked, rfl⟩ := clicked
      exact pressed_focusIsCell (clickCell_focusIsCell holds clicked)
    · exact Option.some.inj clicked ▸ holds
  · rw [Option.bind_eq_some_iff] at clicked
    obtain ⟨middle, deselected, clicked⟩ := clicked
    -- the focus is taken away before anything else
    have unfocused : middle.FocusIsCell :=
      (deselectAll_keeps deselected).validity_iff.mpr (.inl ⟨rfl, rfl⟩)
    rw [Option.map_eq_some_iff] at clicked
    obtain ⟨focused, clicked, rfl⟩ := clicked
    split at clicked
    · exact pressed_focusIsCell (focusItem_focusIsCell unfocused clicked)
    · exact Option.some.inj clicked ▸ pressed_focusIsCell unfocused

theorem lButtonDblClk_focusIsCell {click : Click} {created : Bool} (holds : grid.FocusIsCell) :
    (grid.lButtonDblClk click created).FocusIsCell := by
  rw [lButtonDblClk]
  split
  · split
    · exact holds
    · exact holds
  · exact holds

theorem focusFirst_focusIsCell {cells : List (Int × Int)} {otherwise : Option GridView}
    (holds : grid.FocusIsCell) (others : ∀ other ∈ otherwise, other.FocusIsCell)
    (focused : grid.focusFirst virtual cells answers otherwise = some next) :
    next.FocusIsCell := by
  rw [focusFirst] at focused
  split at focused
  · exact focusItem_focusIsCell holds focused
  · exact others next focused

theorem navigate_focusIsCell {key : GVKey} {move : GridView → Option GridView}
    (holds : grid.FocusIsCell)
    (moves : ∀ middle, middle.FocusIsCell → ∀ last ∈ move middle, last.FocusIsCell)
    (navigated : grid.navigate virtual key answers move = some next) : next.FocusIsCell := by
  rw [navigate] at navigated
  split at navigated
  · rw [Option.bind_eq_some_iff] at navigated
    obtain ⟨middle, deselected, moved⟩ := navigated
    exact moves middle ((deselectAll_keeps deselected).validity_iff.mpr holds) next moved
  · exact Option.some.inj navigated ▸ holds

theorem keyDown_focusIsCell {key : GVKey} (holds : grid.FocusIsCell)
    (handled : grid.keyDown virtual answers key = some next) : next.FocusIsCell := by
  have itself {middle : GridView} (holds : middle.FocusIsCell) :
      ∀ other ∈ some middle, other.FocusIsCell := by
    intro other same
    exact Option.some.inj same ▸ holds
  have first {middle : GridView} (cells : List (Int × Int)) (holds : middle.FocusIsCell) :
      ∀ last ∈ middle.focusFirst virtual cells answers (some middle), last.FocusIsCell :=
    fun _ => focusFirst_focusIsCell holds (itself holds)
  cases key with
  | gvLeft => exact navigate_focusIsCell holds (fun _ => first _) handled
  | gvUp => exact navigate_focusIsCell holds (fun _ => first _) handled
  | gvRight => exact navigate_focusIsCell holds (fun _ => first _) handled
  | gvDown => exact navigate_focusIsCell holds (fun _ => first _) handled
  | gvReturn => exact navigate_focusIsCell holds (fun _ => first _) handled
  | gvTab =>
      refine navigate_focusIsCell holds (fun middle kept last moved => ?_) handled
      exact focusFirst_focusIsCell kept (first _ kept) moved

end Focus

/-! What changes the rows and columns. -/

def Refuses (rows columns : Int) (allocates : Bool) : Prop :=
  if rows > 0 ∧ columns > 0 then allocates = false else rows ≠ 0 ∧ columns ≠ 0

section Dimensions

variable {grid next : GridView} {virtual : GridOverrides}

theorem resize_cases {rows columns : Int} {allocates : Bool}
    (resized : (grid.resize rows columns allocates).map Prod.snd = some next) :
    Refuses rows columns allocates ∧ grid.Keeps next ∨
      ¬ Refuses rows columns allocates ∧
        { grid with numRows := rows, numColumns := columns }.Keeps next := by
  rw [Option.map_eq_some_iff] at resized
  obtain ⟨⟨done, same⟩, resized, rfl⟩ := resized
  by_cases filled : rows > 0 ∧ columns > 0
  · rw [resize, if_pos filled] at resized
    rw [Refuses, if_pos filled]
    cases allocates with
    | true =>
        dsimp only at resized
        rw [if_pos rfl, Option.bind_eq_some_iff] at resized
        obtain ⟨copied, -, resized⟩ := resized
        rw [Option.map_eq_some_iff] at resized
        obtain ⟨-, -, resized⟩ := resized
        obtain ⟨-, rfl⟩ := Prod.mk.inj resized
        exact .inr ⟨Bool.noConfusion, ⟨rfl, rfl, rfl, rfl, id⟩⟩
    | false =>
        rw [if_neg Bool.false_ne_true, Option.some.injEq] at resized
        obtain ⟨-, rfl⟩ := Prod.mk.inj resized
        exact .inl ⟨rfl, .refl grid⟩
  · rw [resize, if_neg filled] at resized
    rw [Refuses, if_neg filled]
    by_cases empty : rows = 0 ∨ columns = 0
    · rw [if_pos empty] at resized
      dsimp only at resized
      rw [Option.map_eq_some_iff] at resized
      obtain ⟨-, -, resized⟩ := resized
      obtain ⟨-, rfl⟩ := Prod.mk.inj resized
      exact .inr ⟨by omega, ⟨rfl, rfl, rfl, rfl, id⟩⟩
    · rw [if_neg empty, Option.some.injEq] at resized
      obtain ⟨-, rfl⟩ := Prod.mk.inj resized
      exact .inl ⟨by omega, .refl grid⟩

theorem resize_focusIsCell {rows columns : Int} {allocates : Bool} (holds : grid.FocusIsCell)
    (moreRows : grid.numRows ≤ rows) (moreColumns : grid.numColumns ≤ columns)
    (resized : (grid.resize rows columns allocates).map Prod.snd = some next) :
    next.FocusIsCell := by
  obtain ⟨-, keeps⟩ | ⟨-, keeps⟩ := resize_cases resized
  · exact keeps.validity_iff.mpr holds
  · rw [keeps.validity_iff]
    obtain unfocused | inside := holds
    · exact .inl unfocused
    · exact .inr (by dsimp only; omega)

theorem removeRow_focusIsCell_iff {rowNum : Int} {allocates : Bool} (holds : grid.FocusIsCell)
    (removed : grid.removeRow rowNum allocates = some next) :
    next.FocusIsCell ↔ grid.SparesFocus (.removeRow rowNum allocates) := by
  rw [removeRow, Option.bind_eq_some_iff] at removed
  obtain ⟨gridItems, -, resized⟩ := removed
  obtain ⟨refused, keeps⟩ | ⟨resizes, keeps⟩ := resize_cases resized
  · rw [keeps.validity_iff]
    refine iff_of_true holds ?_
    obtain unfocused | inside := holds
    · exact .inl unfocused
    · rw [Refuses] at refused
      split at refused
      · exact .inr (.inr ⟨by omega, refused⟩)
      · omega
  · rw [keeps.validity_iff]
    obtain unfocused | inside := holds
    · exact iff_of_true (.inl unfocused) (.inl unfocused)
    · rw [Refuses] at resizes
      rw [SparesFocus, FocusIsCell, Unfocused, Unfocused]
      dsimp only
      split at resizes
      · constructor
        · omega
        · rintro (unfocused | above | ⟨_, fails⟩)
          · omega
          · omega
          · exact absurd fails resizes
      · constructor
        · omega
        · omega

theorem deleteAllItems_focusIsCell_iff {deletes allocates : Bool} (holds : grid.FocusIsCell)
    (deleted : grid.deleteAllItems deletes allocates = some next) :
    next.FocusIsCell ↔ grid.SparesFocus (.deleteAllItems deletes allocates) := by
  cases deletes with
  | false =>
      obtain rfl := Option.some.inj deleted
      exact iff_of_true holds (.inr rfl)
  | true =>
      rw [deleteAllItems, if_pos rfl] at deleted
      obtain ⟨refused, -⟩ | ⟨-, keeps⟩ := resize_cases deleted
      · rw [Refuses, if_neg (by omega)] at refused
        omega
      · rw [keeps.validity_iff, SparesFocus, FocusIsCell, Unfocused, Unfocused]
        dsimp only
        constructor
        · rintro (unfocused | inside)
          · exact .inl unfocused
          · omega
        · rintro (unfocused | refuses)
          · exact .inl unfocused
          · contradiction

/-! One input, and runs of them. -/

theorem input_focusIsCell_iff {event : GridInput} (holds : grid.FocusIsCell)
    (taken : grid.input virtual event = some next) :
    next.FocusIsCell ↔ grid.SparesFocus event := by
  cases event with
  | addColumn allocates =>
      exact iff_of_true (resize_focusIsCell holds (Int.le_refl _) (by omega) taken) trivial
  | addRow numColumnsInRow allocates =>
      exact iff_of_true (resize_focusIsCell holds (by omega) (by omega) taken) trivial
  | removeRow rowNum allocates => exact removeRow_focusIsCell_iff holds taken
  | deleteAllItems deletes allocates => exact deleteAllItems_focusIsCell_iff holds taken
  | focusItem x y answers => exact iff_of_true (focusItem_focusIsCell holds taken) trivial
  | lButtonDown click answers => exact iff_of_true (lButtonDown_focusIsCell holds taken) trivial
  | lButtonDblClk click created =>
      obtain rfl := Option.some.inj taken
      exact iff_of_true (lButtonDblClk_focusIsCell holds) trivial
  | lButtonUp click answers =>
      exact iff_of_true ((lButtonUp_keeps taken).validity_iff.mpr holds) trivial
  | keyDown key answers => exact iff_of_true (keyDown_focusIsCell holds taken) trivial

/-- In all states of a run the focus is a cell or none, exactly if no removed row is one too many
for it. -/
theorem focusIsCell_iff (virtual : GridOverrides) {events : List GridInput} {last : GridView}
    (reached : Runs.final (input virtual) new events = some last) :
    Runs.Along (input virtual)
        (Runs.After (input virtual) fun _ _ next => next.FocusIsCell) new events ↔
      Runs.Along (input virtual) SparesFocus new events := by
  apply Runs.along_iff_of_invariant _ _ new_focusIsCell (Runs.along_of_final reached)
  · intro grid event holds taken
    refine Runs.after_iff ?_ fun next stepped => input_focusIsCell_iff holds stepped
    intro blocked
    obtain ⟨next, stepped⟩ := taken
    rw [blocked] at stepped
    contradiction
  · intro grid event holds _ spares next stepped
    exact (input_focusIsCell_iff holds stepped).mpr spares

end Dimensions

def silent : EditAnswers := ⟨none, true, .prevented⟩

def focusedSteps : List GridInput :=
  [.addColumn true, .addRow 1 true, .addRow 1 true, .focusItem 0 0 silent]

theorem focusIsCell_iff_spared :
    Runs.Along (input .base)
      (Runs.After (input .base) fun _ _ next => next.FocusIsCell) new
      (focusedSteps ++ [.removeRow 1 true, .keyDown .gvDown silent]) :=
  (focusIsCell_iff .base rfl).mpr (by decide)

/-- The focused row is the last one and is removed. -/
theorem focusIsCell_misses_removedRow :
    ¬ ∀ virtual events last, Runs.final (input virtual) new events = some last →
      last.FocusIsCell := by
  intro claim
  have reached := claim .base (focusedSteps ++ [.removeRow 0 true, .removeRow 0 true]) _ rfl
  exact absurd reached (by decide)

end GridView

end LeanMiniViews
