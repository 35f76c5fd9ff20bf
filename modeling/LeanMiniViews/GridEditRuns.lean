import LeanMiniViews.GridEntry

/-!
The window of a grid against the entry of texts, message by message.
-/

namespace LeanMiniViews

/-- A grid whose window serves the entry of texts. While there is a draft the keyboard is not
with the grid itself, and a press of the button gives it back before anything else. -/
structure GridControl.Serves (control : GridControl) (entry : CellEntry) : Prop where
  shows : GridView.Shows { control.grid with editing := false } entry.sheet entry.pointing
  editing : control.grid.editing = entry.draft.isSome
  editBox : control.editBox = entry.draft.map Prod.snd
  cell : ∀ draft ∈ entry.draft, draft.1 = entry.pointing.focus
  away : entry.draft.isSome = true → control.hasFocus = false
  forwards : control.forwardArrowKeys = entry.forwards
  placed : entry.pointing.Placed entry.sheet.rows entry.sheet.columns

namespace GridControl

section Serving

variable {control : GridControl} {entry : CellEntry} {virtual : GridOverrides}

theorem Serves.idle_shows (serves : control.Serves entry) (noDraft : entry.draft = none) :
    control.grid.Shows entry.sheet entry.pointing := by
  have idle : control.grid.editing = false := by
    rw [serves.editing, noDraft]
    rfl
  have same : { control.grid with editing := false } = control.grid := by
    rw [← idle]
  exact same ▸ serves.shows

/-- What the grid is once it has ended the editing, if there was any. -/
theorem Serves.ended (serves : control.Serves entry) (answers : BoxAnswers) :
    ∃ ended, control.grid.endEditing (control.editAnswers answers) = some ended ∧
      ended.Shows (entry.close answers).sheet entry.pointing := by
  cases drafted : entry.draft with
  | none =>
      have shows := serves.idle_shows drafted
      refine ⟨control.grid, shows.endEditing_eq _, ?_⟩
      rw [CellEntry.close, drafted]
      exact shows
  | some draft =>
      obtain ⟨cell, text⟩ := draft
      have editing : control.grid.editing = true := by
        rw [serves.editing, drafted]
        rfl
      have box : control.editBox = some text := by
        rw [serves.editBox, drafted]
        rfl
      have focus : (control.grid.focusedX, control.grid.focusedY) = cell :=
        serves.shows.focus.trans (serves.cell _ drafted).symm
      have destroyed : (control.editAnswers answers).destroyed = true := by
        rw [editAnswers, box]
        rfl
      have shown : (control.editAnswers answers).text =
          if answers.readable then some text else none := by
        rw [editAnswers, box]
        rfl
      rw [GridView.endEditing, if_pos ⟨editing, destroyed⟩, shown, CellEntry.close, drafted]
      have str : ((if answers.readable then some text else none).bind fun text =>
          (control.editAnswers answers).changing.str text) = answers.str text := by
        rw [BoxAnswers.str]
        cases answers.readable with
        | false => rfl
        | true => rfl
      rw [str]
      dsimp only
      cases answers.str text with
      | none => exact ⟨_, rfl, serves.shows⟩
      | some str =>
          obtain ⟨next, changed, holds⟩ := serves.shows.withText cell str
          rw [← focus] at changed
          exact ⟨next, changed, holds⟩

/-- A handler that ends the editing before it points at cells. -/
theorem Serves.handle (serves : control.Serves entry) (answers : BoxAnswers)
    {handler : GridView → GridView.EditAnswers → Option GridView}
    {move : Nat → Nat → Pointing → Pointing}
    (ends : ∀ ended, control.grid.endEditing (control.editAnswers answers) = some ended →
      ended.editing = false → handler control.grid (control.editAnswers answers) =
        handler ended (control.editAnswers answers))
    (handles : ∀ grid sheet pointing, GridView.Shows grid sheet pointing →
      sheet.rows = entry.sheet.rows → sheet.columns = entry.sheet.columns →
      ∃ next, handler grid (control.editAnswers answers) = some next ∧
        next.Shows sheet (move sheet.rows sheet.columns pointing))
    (places : ∀ rows columns pointing, Pointing.Placed rows columns pointing →
      (move rows columns pointing).Placed rows columns) :
    ∃ next, control.handle answers handler = some next ∧
      next.Serves (entry.point answers move) := by
  obtain ⟨ended, closes, shows⟩ := serves.ended answers
  obtain ⟨next, handled, shown⟩ := handles ended _ _ shows (entry.close_rows answers)
    (entry.close_columns answers)
  have same := ends ended closes shows.idle
  refine ⟨control.handled answers next, ?_, ?_⟩
  · rw [GridControl.handle, same, handled, Option.map_some]
  · have left : (control.handled answers next).grid = next ∧
        (control.handled answers next).editBox = none ∧
        (control.handled answers next).forwardArrowKeys = control.forwardArrowKeys := by
      rw [GridControl.handled, shown.idle]
      cases editing : control.grid.editing with
      | true => exact ⟨rfl, rfl, rfl⟩
      | false =>
          have noDraft : entry.draft = none :=
            Option.isNone_iff_eq_none.mp (by simp [← Option.not_isSome, ← serves.editing, editing])
          refine ⟨rfl, ?_, rfl⟩
          exact serves.editBox.trans (by rw [noDraft]; rfl)
    obtain ⟨grid, editBox, forwards⟩ := left
    have still : { next with editing := false } = next := by rw [← shown.idle]
    have closed : (entry.point answers move).draft = none := entry.close_draft answers
    refine ⟨?_, ?_, ?_, ?_, ?_, ?_, ?_⟩
    · rw [grid, still, CellEntry.point, CellEntry.close_pointing]
      exact shown
    · rw [grid, shown.idle, closed]
      rfl
    · rw [editBox, closed]
      rfl
    · rw [closed]
      intro draft member
      cases member
    · rw [closed]
      intro drafted
      cases drafted
    · rw [forwards, serves.forwards]
      exact (entry.close_forwards answers).symm
    · rw [CellEntry.point, CellEntry.close_pointing]
      apply places
      rw [CellEntry.close_rows, CellEntry.close_columns]
      exact serves.placed

theorem close_noDraft (noDraft : entry.draft = none) (answers : BoxAnswers) :
    entry.close answers = entry := by
  rw [CellEntry.close, noDraft]

theorem Serves.endEditing (serves : control.Serves entry) (answers : BoxAnswers) :
    ∃ next, control.endEditing answers = some next ∧ next.Serves (entry.close answers) := by
  refine @Serves.handle control entry serves answers GridView.endEditing
    (fun _ _ pointing => pointing) ?_ ?_ ?_
  · intro ended closes idle
    rw [closes, GridView.endEditing_idle idle]
  · intro grid sheet pointing shows _ _
    exact ⟨grid, shows.endEditing_eq _, shows⟩
  · intro rows columns pointing placed
    exact placed

theorem Serves.focus (serves : control.Serves entry) (noDraft : entry.draft = none)
    (hasFocus : Bool) : Serves { control with hasFocus := hasFocus } entry where
  shows := serves.shows
  editing := serves.editing
  editBox := serves.editBox
  cell := serves.cell
  away drafted := by
    rw [noDraft] at drafted
    cases drafted
  forwards := serves.forwards
  placed := serves.placed

theorem Serves.killFocus (serves : control.Serves entry) : control.killFocus.Serves entry where
  shows := serves.shows
  editing := serves.editing
  editBox := serves.editBox
  cell := serves.cell
  away _ := rfl
  forwards := serves.forwards
  placed := serves.placed

theorem Serves.focusThis (serves : control.Serves entry) (answers : BoxAnswers) :
    ∃ next, control.focusThis answers = some next ∧ next.Serves (entry.close answers) := by
  rw [GridControl.focusThis]
  cases focused : control.hasFocus with
  | true =>
      have noDraft : entry.draft = none := by
        rw [← Option.not_isSome_iff_eq_none]
        intro drafted
        rw [serves.away drafted] at focused
        cases focused
      rw [close_noDraft noDraft, if_pos rfl]
      exact ⟨control, rfl, serves⟩
  | false =>
      obtain ⟨next, ended, holds⟩ := serves.endEditing answers
      rw [if_neg Bool.false_ne_true, GridControl.setFocus, ended, Option.map_some]
      exact ⟨_, rfl, holds.focus (entry.close_draft answers) true⟩

theorem Serves.keyDown (serves : control.Serves entry) (key : GVKey) (answers : BoxAnswers) :
    ∃ next, control.keyDown virtual key answers = some next ∧
      next.Serves (entry.keyDown virtual key answers) := by
  rw [CellEntry.keyDown]
  by_cases moves : (entry.draft.isNone || virtual.allowKeyNavDuringEdit key) = true
  · have free : control.grid.editing = false ∨ virtual.allowKeyNavDuringEdit key = true := by
      rw [serves.editing]
      cases drafted : entry.draft with
      | none => exact Or.inl rfl
      | some draft =>
          rw [drafted] at moves
          exact Or.inr moves
    rw [if_pos moves]
    refine @Serves.handle control entry serves answers
      (fun grid answers => grid.keyDown virtual answers key)
      (fun rows columns pointing => pointing.keyDown virtual rows columns key) ?_ ?_ ?_
    · intro ended closes idle
      exact GridView.keyDown_ended closes idle free
    · intro grid sheet pointing shows _ _
      exact shows.keyDown key _
    · intro rows columns pointing placed
      have cleared : pointing.deselect.Placed rows columns := placed
      exact cleared.focusFirst virtual _
  · rw [if_neg moves]
    rw [Bool.or_eq_true, not_or] at moves
    have editing : control.grid.editing = true := by
      rw [serves.editing, ← Option.not_isNone, Bool.not_eq_true']
      exact Bool.eq_false_iff.mpr moves.1
    have refused : control.grid.keyDown virtual (control.editAnswers answers) key =
        some control.grid := by
      rw [GridView.keyDown_eq, GridView.navigate, if_neg]
      rw [editing, Bool.eq_false_iff.mpr moves.2]
      decide
    refine ⟨control, ?_, serves⟩
    rw [GridControl.keyDown, GridControl.handle, refused, Option.map_some, GridControl.handled,
      editing]
    rfl

theorem Serves.lButtonDown (serves : control.Serves entry) (click : GridView.Click)
    (answers : BoxAnswers) :
    ∃ next, control.lButtonDown virtual click answers = some next ∧
      next.Serves (entry.point answers fun rows columns pointing =>
        pointing.press rows columns virtual click) := by
  obtain ⟨focused, focuses, idle⟩ := serves.focusThis answers
  have noDraft : (entry.close answers).draft = none := entry.close_draft answers
  have handled := @Serves.handle focused (entry.close answers) idle answers
    (fun grid answers => grid.lButtonDown virtual click answers)
    (fun rows columns pointing => pointing.press rows columns virtual click) ?_ ?_ ?_
  · obtain ⟨next, pressed, holds⟩ := handled
    refine ⟨next, ?_, ?_⟩
    · rw [GridControl.lButtonDown, focuses, Option.bind_some, pressed]
    · rw [CellEntry.point, close_noDraft noDraft] at holds
      exact holds
  · intro ended closes _
    rw [(idle.idle_shows noDraft).endEditing_eq, Option.some.injEq] at closes
    rw [closes]
  · intro grid sheet pointing shows _ _
    exact shows.lButtonDown click _
  · intro rows columns pointing placed
    exact placed.press virtual click

/-- A handler that leaves an edited grid as it is. -/
theorem Serves.drag (serves : control.Serves entry) (answers : BoxAnswers)
    {handler : GridView → GridView.EditAnswers → Option GridView} {input : MouseInput}
    (goes : input.Goes)
    (waits : control.grid.editing = true →
      handler control.grid (control.editAnswers answers) = some control.grid)
    (handles : ∀ grid, GridView.Shows grid entry.sheet entry.pointing →
      ∃ next, handler grid (control.editAnswers answers) = some next ∧
        next.Shows entry.sheet
          (entry.pointing.step entry.sheet.rows entry.sheet.columns virtual input)) :
    ∃ next, control.handle answers handler = some next ∧
      next.Serves (entry.drag virtual input) := by
  rw [CellEntry.drag]
  by_cases noDraft : entry.draft = none
  · have shows := serves.idle_shows noDraft
    obtain ⟨next, moved, shown⟩ := handles control.grid shows
    have left : control.handled answers next = { control with grid := next } := by
      rw [GridControl.handled, shows.idle]
      rfl
    have still : { next with editing := false } = next := by rw [← shown.idle]
    rw [if_pos (Option.isNone_iff_eq_none.mpr noDraft)]
    refine ⟨control.handled answers next, ?_, ?_⟩
    · rw [GridControl.handle, moved, Option.map_some]
    · rw [left]
      refine ⟨?_, ?_, serves.editBox, ?_, serves.away, serves.forwards, ?_⟩
      · dsimp only
        rw [still]
        exact shown
      · dsimp only
        rw [shown.idle, noDraft]
        rfl
      · intro draft member
        dsimp only at member
        rw [noDraft] at member
        cases member
      · dsimp only
        rw [Pointing.Placed, Pointing.step_focus virtual goes]
        exact serves.placed
  · have drafted : entry.draft.isSome = true := Option.isSome_iff_ne_none.mpr noDraft
    have editing : control.grid.editing = true := serves.editing.trans drafted
    rw [if_neg (by rw [Option.isNone_iff_eq_none]; exact noDraft)]
    refine ⟨control, ?_, serves⟩
    rw [GridControl.handle, waits editing, Option.map_some, GridControl.handled, editing]
    rfl

theorem Serves.mark_iff {cells : Nat → Nat → GridControlItem} (serves : control.Serves entry)
    (colored : GridView.Colored entry.sheet entry.pointing.selected cells) {x y : Nat}
    (inColumns : x < entry.sheet.columns) (inRows : y < entry.sheet.rows) :
    control.grid.mark { entry.sheet with cell := cells } (x, y) = true ↔ entry.mark (x, y) := by
  have focus : (control.grid.focusedX, control.grid.focusedY) = entry.pointing.focus :=
    serves.shows.focus
  obtain ⟨-, selected⟩ := colored x y inColumns inRows
  rw [GridView.mark, Bool.or_eq_true, selected, GridView.isFocused, Bool.and_eq_true,
    decide_eq_true_eq, decide_eq_true_eq, CellEntry.mark, Set.mem_insert_iff, ← focus,
    Prod.mk.injEq]

theorem Serves.deleteSelection (serves : control.Serves entry) (accepts : Nat × Nat → Bool) :
    ∃ next, control.deleteSelection accepts = some next ∧ next.Serves (entry.delete accepts) := by
  obtain ⟨cells, represents, colored⟩ := serves.shows.colored
  have stored : control.grid.Represents { entry.sheet with cell := cells } :=
    ⟨represents.numRows, represents.numColumns, represents.stored, represents.null⟩
  obtain ⟨last, deleted, deletes, left⟩ :=
    @GridView.Represents.deleteSelection_eq control.grid _ accepts stored
  refine ⟨{ control with grid := last.grid }, ?_, ⟨?_, ?_, ?_, ?_, ?_, ?_⟩, ?_, serves.editBox,
    serves.cell, serves.away, serves.forwards, serves.placed⟩
  · rw [GridControl.deleteSelection, deleted, Option.map_some]
  · refine ⟨(control.grid.withoutSelection { entry.sheet with cell := cells } accepts).cell,
      ⟨left.numRows, left.numColumns, left.stored, left.null⟩, ?_⟩
    intro x y inColumns inRows
    have marked := serves.mark_iff colored inColumns inRows
    obtain ⟨same, selected⟩ := colored x y inColumns inRows
    dsimp only [GridView.withoutSelection, CellEntry.delete]
    by_cases goes : entry.mark (x, y) ∧ accepts (x, y) = true
    · rw [if_pos goes, if_pos ⟨marked.mpr goes.1, goes.2⟩]
      refine ⟨?_, selected⟩
      rw [same]
      rfl
    · rw [if_neg goes, if_neg fun both => goes ⟨marked.mp both.1, both.2⟩]
      exact ⟨same, selected⟩
  · exact serves.shows.within
  · have focus : (control.grid.focusedX, control.grid.focusedY) = entry.pointing.focus :=
      serves.shows.focus
    dsimp only [CellEntry.delete]
    rw [deletes.keeps.focusedX, deletes.keeps.focusedY, focus]
  · exact deletes.held.trans serves.shows.held
  · rfl
  · dsimp only
    rw [deletes.null]
    exact serves.shows.null
  · dsimp only [CellEntry.delete]
    rw [deletes.editing, serves.editing]

/-- A box that gets the keyboard when it is opened. -/
theorem Serves.opened (serves : control.Serves entry) (text : List Char) (forwards : Bool) :
    Serves
      ⟨{ control.grid with editing := true }, some text, forwards, false⟩
      { entry with draft := some (entry.pointing.focus, text), forwards := forwards } where
  shows := serves.shows
  editing := rfl
  editBox := rfl
  cell draft member := by
    rw [← Option.some.inj member]
  away _ := rfl
  forwards := rfl
  placed := serves.placed

theorem Serves.opens_iff (serves : control.Serves entry) (created : Bool) :
    (!control.grid.editing && created) = (entry.draft.isNone && created) := by
  rw [serves.editing, Option.not_isSome]

theorem Serves.char (serves : control.Serves entry) {character : List Char}
    (typed : character ≠ []) (opening : Opening) :
    ∃ next, control.char false character opening = some next ∧
      next.Serves (entry.char opening.created character) := by
  rw [GridControl.char, if_neg Bool.false_ne_true, startEditing, if_neg typed,
    serves.opens_iff, CellEntry.char, CellEntry.begin, CellEntry.begin]
  cases opens : entry.draft.isNone && opening.created with
  | false =>
      refine ⟨control, rfl, ?_⟩
      split
      · exact serves
      · rw [Bool.or_false]
        exact serves
  | true =>
      by_cases erased : character = backspace
      · rw [if_pos rfl, if_pos erased, if_pos erased]
        exact ⟨_, rfl, serves.forwards ▸ serves.opened [] control.forwardArrowKeys⟩
      · rw [if_pos rfl, if_neg erased, if_neg erased, Bool.or_true]
        exact ⟨_, rfl, serves.opened character true⟩

/-- A point on an item lies on a column from the first one on. -/
theorem Serves.lButtonDblClk (serves : control.Serves entry) {click : GridView.Click}
    (hits : ∀ cell ∈ click.itemAt, 0 ≤ cell.1) (created : Bool) :
    ∃ next, control.lButtonDblClk click created = some next ∧
      next.Serves (if click.itemAt = some entry.pointing.focus then
        entry.begin created (entry.sheet.textAt entry.pointing.focus) else entry) := by
  have focus : (control.grid.focusedX, control.grid.focusedY) = entry.pointing.focus :=
    serves.shows.focus
  rw [GridControl.lButtonDblClk]
  cases hit : click.itemAt with
  | none => exact ⟨control, rfl, serves⟩
  | some cell =>
      obtain ⟨x, y⟩ := cell
      have here : (x = control.grid.focusedX ∧ y = control.grid.focusedY) ↔
          some (x, y) = some entry.pointing.focus := by
        rw [Option.some.injEq, ← focus, Prod.mk.injEq]
      dsimp only
      by_cases focused : some (x, y) = some entry.pointing.focus
      · rw [if_pos (here.mpr focused), if_pos focused, startEditing, if_pos rfl, serves.opens_iff,
          CellEntry.begin]
        rw [Option.some.injEq] at focused
        have column : 0 ≤ x := hits (x, y) hit
        have inside : (x, y) ∈ Pointing.cells entry.sheet.rows entry.sheet.columns := by
          rcases serves.placed with nowhere | somewhere
          · rw [← focused, Prod.mk.injEq] at nowhere
            omega
          · rw [focused]
            exact somewhere
        cases opens : entry.draft.isNone && created with
        | false => exact ⟨control, rfl, serves⟩
        | true =>
            obtain ⟨cells, represents, colored⟩ := serves.shows.colored
            obtain ⟨x, y, same, inColumns, inRows⟩ := Pointing.exists_of_mem_cells inside
            obtain ⟨rfl, rfl⟩ := Prod.mk.inj same
            obtain ⟨inGrid, found⟩ := represents.item_eq inColumns inRows
            have read : control.grid.item x y = some (cells x y) := by
              rw [GridView.item]
              exact (if_pos inGrid).trans found
            have text : (cells x y).text = entry.sheet.textAt entry.pointing.focus := by
              rw [(colored x y inColumns inRows).1, ← focused]
              rfl
            rw [if_pos rfl, if_pos rfl]
            dsimp only
            rw [read, Option.map_some, if_pos rfl, text]
            exact ⟨_, rfl, serves.forwards ▸ serves.opened _ control.forwardArrowKeys⟩
      · rw [if_neg fun same => focused (here.mp same), if_neg focused]
        exact ⟨control, rfl, serves⟩

theorem Serves.redraft (serves : control.Serves entry) (drafted : entry.draft.isSome = true)
    (text : List Char) (hasFocus : Bool) (away : hasFocus = false) :
    Serves { control with editBox := some text, hasFocus := hasFocus } (entry.redraft text) where
  shows := serves.shows
  editing := by
    dsimp only [CellEntry.redraft]
    rw [serves.editing, Option.isSome_map]
  editBox := by
    obtain ⟨draft, same⟩ := Option.isSome_iff_exists.mp drafted
    rw [CellEntry.redraft, same]
    rfl
  cell draft member := by
    obtain ⟨before, same, rfl⟩ := Option.map_eq_some_iff.mp member
    exact serves.cell before same
  away _ := away
  forwards := serves.forwards
  placed := serves.placed

theorem redraft_noDraft (noDraft : entry.draft = none) (text : List Char) :
    entry.redraft text = entry := by
  rw [CellEntry.redraft, noDraft, Option.map_none, ← noDraft]

end Serving

end GridControl

/-- Half of a surrogate pair comes as no text at all, and a hit is on a column. -/
def EditInput.Whole : EditInput → Prop
  | .char _ character _ => character ≠ []
  | .lButtonDblClk click _ => ∀ cell ∈ click.itemAt, 0 ≤ cell.1
  | _ => True

namespace CellEntry

section Sizes

variable (virtual : GridOverrides) (entry : CellEntry)

theorem begin_sheet (created : Bool) (text : List Char) :
    (entry.begin created text).sheet = entry.sheet := by
  rw [begin]
  split
  · rfl
  · rfl

theorem drag_sheet (input : MouseInput) : (entry.drag virtual input).sheet = entry.sheet := by
  rw [drag]
  split
  · rfl
  · rfl

theorem keyDown_size (key : GVKey) (answers : GridControl.BoxAnswers) :
    (entry.keyDown virtual key answers).sheet.rows = entry.sheet.rows ∧
      (entry.keyDown virtual key answers).sheet.columns = entry.sheet.columns := by
  rw [keyDown]
  split
  · exact ⟨entry.close_rows answers, entry.close_columns answers⟩
  · exact ⟨rfl, rfl⟩

theorem step_size (input : EditInput) :
    (entry.step virtual input).sheet.rows = entry.sheet.rows ∧
      (entry.step virtual input).sheet.columns = entry.sheet.columns := by
  have closes (answers : GridControl.BoxAnswers) :=
    And.intro (entry.close_rows answers) (entry.close_columns answers)
  cases input with
  | setFocus answers => exact closes answers
  | killFocus => exact ⟨rfl, rfl⟩
  | endEditing answers => exact closes answers
  | focusItem cell answers => exact closes answers
  | keyDown key answers => exact entry.keyDown_size virtual key answers
  | deleteKey accepts => exact ⟨rfl, rfl⟩
  | char controlKey character opening =>
      rw [step]
      split
      · exact ⟨rfl, rfl⟩
      · rw [char]
        split
        · rw [begin_sheet]
          exact ⟨rfl, rfl⟩
        · dsimp only
          rw [begin_sheet]
          exact ⟨rfl, rfl⟩
  | lButtonDown click answers => exact closes answers
  | mouseMove click buttonHeld answers =>
      rw [step, drag_sheet]
      exact ⟨rfl, rfl⟩
  | mouseHover click answers =>
      rw [step, drag_sheet]
      exact ⟨rfl, rfl⟩
  | lButtonUp click answers =>
      rw [step, drag_sheet]
      exact ⟨rfl, rfl⟩
  | lButtonDblClk click created =>
      rw [step]
      split
      · rw [begin_sheet]
        exact ⟨rfl, rfl⟩
      · exact ⟨rfl, rfl⟩
  | boxKeyDown key answers =>
      rw [step]
      split
      · exact entry.keyDown_size virtual key answers
      · exact ⟨rfl, rfl⟩
  | boxEdited text => exact ⟨rfl, rfl⟩
  | setEditText text => exact ⟨rfl, rfl⟩

end Sizes

end CellEntry

namespace GridControl

section Runs

variable {control : GridControl} {entry : CellEntry} {virtual : GridOverrides}

theorem Serves.step (serves : control.Serves entry)
    (adjusts : virtual.AdjustsInside entry.sheet.rows entry.sheet.columns) {input : EditInput}
    (whole : input.Whole) :
    ∃ next, control.step virtual input = some next ∧ next.Serves (entry.step virtual input) := by
  cases input with
  | setFocus answers => exact serves.focusThis answers
  | killFocus => exact ⟨_, rfl, serves.killFocus⟩
  | endEditing answers => exact serves.endEditing answers
  | focusItem cell answers =>
      refine @Serves.handle control entry serves answers
        (fun grid answers => grid.focusItem virtual cell.1 cell.2 answers)
        (fun rows columns pointing => pointing.focusOn rows columns virtual cell) ?_ ?_ ?_
      · intro ended closes idle
        exact GridView.focusItem_ended closes idle cell.1 cell.2
      · intro grid sheet pointing shows _ _
        exact shows.focusItem cell _
      · intro rows columns pointing placed
        exact placed.focusOn virtual cell
  | keyDown key answers => exact serves.keyDown key answers
  | deleteKey accepts => exact serves.deleteSelection accepts
  | char controlKey character opening =>
      cases controlKey with
      | true => exact ⟨control, rfl, serves⟩
      | false => exact serves.char whole opening
  | lButtonDown click answers => exact serves.lButtonDown click answers
  | mouseMove click buttonHeld answers =>
      refine @Serves.drag control entry virtual serves answers
        (fun grid answers => grid.mouseMove virtual click buttonHeld answers)
        (.mouseMove click buttonHeld GridView.silentAnswers) trivial ?_ ?_
      · intro editing
        rw [GridView.mouseMove, editing]
        split
        · rfl
        · rfl
      · intro grid shows
        exact shows.mouse adjusts (.mouseMove click buttonHeld (control.editAnswers answers))
  | mouseHover click answers =>
      refine @Serves.drag control entry virtual serves answers
        (fun grid answers => grid.mouseHover virtual click answers)
        (.mouseHover click GridView.silentAnswers) trivial ?_ ?_
      · intro editing
        rw [GridView.mouseHover, editing]
        rfl
      · intro grid shows
        exact shows.mouse adjusts (.mouseHover click (control.editAnswers answers))
  | lButtonUp click answers =>
      refine @Serves.drag control entry virtual serves answers
        (fun grid answers => grid.lButtonUp virtual click answers)
        (.lButtonUp click GridView.silentAnswers) trivial ?_ ?_
      · intro editing
        rw [GridView.lButtonUp, if_neg (by simp [editing])]
      · intro grid shows
        exact shows.mouse adjusts (.lButtonUp click (control.editAnswers answers))
  | lButtonDblClk click created => exact serves.lButtonDblClk whole created
  | boxKeyDown key answers =>
      have box : control.editBox.isSome = entry.draft.isSome := by
        rw [serves.editBox, Option.isSome_map]
      dsimp only [GridControl.step, boxKeyDown, CellEntry.step]
      rw [box, serves.forwards]
      split
      · exact serves.keyDown key answers
      · exact ⟨control, rfl, serves⟩
  | boxEdited text =>
      have box : control.editBox.isSome = entry.draft.isSome := by
        rw [serves.editBox, Option.isSome_map]
      refine ⟨control.boxEdited text, rfl, ?_⟩
      rw [boxEdited, box, CellEntry.step]
      split
      · rename_i drafted
        exact serves.redraft drafted text control.hasFocus (serves.away drafted)
      · rename_i noDraft
        rw [redraft_noDraft (Option.not_isSome_iff_eq_none.mp noDraft)]
        exact serves
  | setEditText text =>
      refine ⟨control.setEditText text, rfl, ?_⟩
      rw [GridControl.setEditText, serves.editing, CellEntry.step]
      split
      · rename_i drafted
        exact serves.redraft drafted text false rfl
      · rename_i noDraft
        rw [redraft_noDraft (Option.not_isSome_iff_eq_none.mp noDraft)]
        exact serves

/-- What a grid that is not edited means. -/
def idleEntry (control : GridControl) (sheet : Sheet) : CellEntry :=
  ⟨sheet, control.grid.pointing sheet, none, control.forwardArrowKeys⟩

theorem serves_idleEntry {sheet : Sheet} (represents : control.grid.Represents sheet)
    (idle : control.grid.editing = false) (closed : control.editBox = none)
    (null : control.grid.nullItem.selected = false)
    (placed : (control.grid.pointing sheet).Placed sheet.rows sheet.columns) :
    control.Serves (control.idleEntry sheet) := by
  have still : { control.grid with editing := false } = control.grid := by rw [← idle]
  refine ⟨?_, idle, closed, ?_, ?_, rfl, placed⟩
  · rw [still]
    exact represents.shows idle null
  · intro draft member
    cases member
  · intro drafted
    cases drafted

/-- Every run of messages stays in memory and makes of focus, selection and texts what the entry
of texts says: what the parent makes of a draft becomes the text of the cell in which it was begun,
and of no other. -/
theorem editing_refines (virtual : GridOverrides) (control : GridControl) (sheet : Sheet)
    (represents : control.grid.Represents sheet) (idle : control.grid.editing = false)
    (closed : control.editBox = none) (null : control.grid.nullItem.selected = false)
    (placed : (control.grid.pointing sheet).Placed sheet.rows sheet.columns)
    (adjusts : virtual.AdjustsInside sheet.rows sheet.columns) (inputs : List EditInput)
    (whole : ∀ input ∈ inputs, input.Whole) :
    ∃ last, Runs.final (step virtual) control inputs = some last ∧
      last.Serves (inputs.foldl (CellEntry.step virtual) (control.idleEntry sheet)) := by
  let relates (control : GridControl) (entry : CellEntry) : Prop :=
    control.Serves entry ∧ entry.sheet.rows = sheet.rows ∧ entry.sheet.columns = sheet.columns
  have kept (control : GridControl) (entry : CellEntry) (input : EditInput) (whole : input.Whole)
      (related : relates control entry) :
      ∃ next, control.step virtual input = some next ∧
        relates next (entry.step virtual input) := by
    obtain ⟨serves, rows, columns⟩ := related
    have inside : virtual.AdjustsInside entry.sheet.rows entry.sheet.columns := by
      rw [rows, columns]
      exact adjusts
    obtain ⟨next, stepped, holds⟩ := serves.step inside whole
    obtain ⟨sameRows, sameColumns⟩ := entry.step_size virtual input
    exact ⟨next, stepped, holds, sameRows.trans rows, sameColumns.trans columns⟩
  have initial : relates control (control.idleEntry sheet) :=
    ⟨serves_idleEntry represents idle closed null placed, rfl, rfl⟩
  obtain ⟨last, reached, serves, -⟩ := Runs.final_simulates_of_allowed kept initial whole
  exact ⟨last, reached, serves⟩

def blankControl : GridControl := ⟨GridView.ofTable 2 2 fun _ _ => .blank, none, false, true⟩

def obliging : BoxAnswers := ⟨true, .allowed, true⟩

theorem editing_refines_typed :
    ∃ last, Runs.final (step .base) blankControl
        [.lButtonDown (GridView.plainClick (1, 0)) obliging,
          .char false [Char.ofNat 97] ⟨true, none, false⟩,
          .boxEdited [Char.ofNat 97, Char.ofNat 98], .boxKeyDown .gvDown obliging] = some last ∧
      last.Serves (List.foldl (CellEntry.step .base)
        (blankControl.idleEntry ⟨2, 2, fun _ _ => .blank⟩)
        [.lButtonDown (GridView.plainClick (1, 0)) obliging,
          .char false [Char.ofNat 97] ⟨true, none, false⟩,
          .boxEdited [Char.ofNat 97, Char.ofNat 98], .boxKeyDown .gvDown obliging]) := by
  have stored : blankControl.grid.Represents ⟨2, 2, fun _ _ => .blank⟩ :=
    GridView.ofTable_represents (by decide) (by decide) _
  refine editing_refines .base blankControl ⟨2, 2, fun _ _ => .blank⟩ stored rfl rfl rfl
    (Or.inl rfl) (GridView.base_adjustsInside 2 2) _ ?_
  intro input member
  simp only [List.mem_cons, List.not_mem_nil, or_false] at member
  rcases member with rfl | rfl | rfl | rfl
  · trivial
  · exact List.cons_ne_nil _ _
  · trivial
  · trivial

end Runs

end GridControl

end LeanMiniViews
