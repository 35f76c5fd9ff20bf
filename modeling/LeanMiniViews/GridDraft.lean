import LeanMiniViews.GridEditRuns

/-!
A draft from its beginning to its end: whatever the keys, the mouse and the parent do meanwhile,
it comes out in the cell it was begun in.
-/

namespace LeanMiniViews

/-- What is answered if the message closes the box. -/
def EditInput.answers : EditInput → Option GridControl.BoxAnswers
  | .setFocus answers => some answers
  | .endEditing answers => some answers
  | .focusItem _ answers => some answers
  | .keyDown _ answers => some answers
  | .lButtonDown _ answers => some answers
  | .boxKeyDown _ answers => some answers
  | _ => none

def EditInput.Deletes : EditInput → Prop
  | .deleteKey _ => True
  | _ => False

namespace CellEntry

section Drafts

variable {entry : CellEntry} {virtual : GridOverrides} {draft : (Int × Int) × List Char}

theorem begin_drafted (drafted : entry.draft = some draft) (created : Bool) (text : List Char) :
    entry.begin created text = entry := by
  rw [begin, if_neg]
  simp [drafted]

theorem drag_drafted (drafted : entry.draft = some draft) (input : MouseInput) :
    entry.drag virtual input = entry := by
  rw [drag, if_neg]
  simp [drafted]

/-- A key ends the draft or is ignored. -/
theorem keyDown_closes (entry : CellEntry) (key : GVKey) (answers : GridControl.BoxAnswers) :
    ((entry.keyDown virtual key answers).draft = none ∧
        (entry.keyDown virtual key answers).sheet = (entry.close answers).sheet) ∨
      entry.keyDown virtual key answers = entry := by
  rw [keyDown]
  split
  · exact Or.inl ⟨entry.close_draft answers, rfl⟩
  · exact Or.inr rfl

/-- A message closes the draft, changes its text, or does nothing to texts at all. -/
theorem step_drafted (drafted : entry.draft = some draft) {input : EditInput}
    (spares : ¬ input.Deletes) :
    (∃ answers, input.answers = some answers ∧ (entry.step virtual input).draft = none ∧
        (entry.step virtual input).sheet = (entry.close answers).sheet) ∨
      ∃ text, (entry.step virtual input).draft = some (draft.1, text) ∧
        (entry.step virtual input).sheet = entry.sheet := by
  have same : ∃ text, entry.draft = some (draft.1, text) ∧ entry.sheet = entry.sheet :=
    ⟨draft.2, drafted, rfl⟩
  cases input with
  | setFocus answers => exact Or.inl ⟨answers, rfl, entry.close_draft answers, rfl⟩
  | killFocus => exact Or.inr same
  | endEditing answers => exact Or.inl ⟨answers, rfl, entry.close_draft answers, rfl⟩
  | focusItem cell answers => exact Or.inl ⟨answers, rfl, entry.close_draft answers, rfl⟩
  | keyDown key answers =>
      rcases entry.keyDown_closes key answers with closed | waits
      · exact Or.inl ⟨answers, rfl, closed⟩
      · rw [step, waits]
        exact Or.inr same
  | deleteKey accepts => exact absurd trivial spares
  | char controlKey character opening =>
      right
      rw [step, char, begin_drafted drafted, begin_drafted drafted]
      split
      · exact same
      · split
        · exact same
        · exact same
  | lButtonDown click answers => exact Or.inl ⟨answers, rfl, entry.close_draft answers, rfl⟩
  | mouseMove click buttonHeld answers =>
      rw [step, drag_drafted drafted]
      exact Or.inr same
  | mouseHover click answers =>
      rw [step, drag_drafted drafted]
      exact Or.inr same
  | lButtonUp click answers =>
      rw [step, drag_drafted drafted]
      exact Or.inr same
  | lButtonDblClk click created =>
      rw [step, begin_drafted drafted, ite_self]
      exact Or.inr same
  | boxKeyDown key answers =>
      rw [step]
      split
      · rcases entry.keyDown_closes key answers with closed | waits
        · exact Or.inl ⟨answers, rfl, closed⟩
        · rw [waits]
          exact Or.inr same
      · exact Or.inr same
  | boxEdited text =>
      refine Or.inr ⟨text, ?_, rfl⟩
      rw [step, redraft, drafted]
      rfl
  | setEditText text =>
      refine Or.inr ⟨text, ?_, rfl⟩
      rw [step, redraft, drafted]
      rfl

end Drafts

end CellEntry

namespace GridControl

section Session

variable {control last : GridControl} {entry : CellEntry} {virtual : GridOverrides}

def textAt (control : GridControl) (x y : Int) : Option (List Char) :=
  (control.grid.item x y).map GridControlItem.text

theorem Serves.textAt_eq (serves : control.Serves entry) {x y : Int}
    (inside : control.grid.inGrid x y = true) :
    control.textAt x y = some (entry.sheet.textAt (x, y)) := by
  obtain ⟨cells, represents, colored⟩ := serves.shows.colored
  have cell : (x, y) ∈ Pointing.cells entry.sheet.rows entry.sheet.columns :=
    serves.shows.inGrid_iff.mp inside
  obtain ⟨x, y, same, inColumns, inRows⟩ := Pointing.exists_of_mem_cells cell
  obtain ⟨rfl, rfl⟩ := Prod.mk.inj same
  have read : Tables.read control.grid.gridItems x y = some (cells x y) :=
    (represents.item_eq inColumns inRows).2
  rw [GridControl.textAt, GridView.item, if_pos inside, read, Option.map_some,
    (colored x y inColumns inRows).1]
  rfl

/-- What becomes of the sheet when the draft is closed at the end of a run. -/
theorem Serves.drafted {draft : (Int × Int) × List Char} (serves : control.Serves entry)
    (drafted : entry.draft = some draft)
    (adjusts : virtual.AdjustsInside entry.sheet.rows entry.sheet.columns)
    {during : List EditInput} {closing : EditInput}
    (whole : ∀ input ∈ during ++ [closing], input.Whole)
    (spares : ∀ input ∈ during ++ [closing], ¬ input.Deletes)
    (editing : Runs.Along (GridControl.step virtual) (fun control _ => control.grid.editing = true)
      control (during ++ [closing]))
    (reached : Runs.final (GridControl.step virtual) control (during ++ [closing]) = some last)
    (closed : last.grid.editing = false) :
    ∃ middle answers box after,
      Runs.final (GridControl.step virtual) control during = some middle ∧
      closing.answers = some answers ∧ middle.editBox = some box ∧ last.Serves after ∧
      after.sheet =
        match answers.str box with
        | some str => entry.sheet.withText draft.1 str
        | none => entry.sheet := by
  induction during generalizing control entry draft with
  | nil =>
      obtain ⟨next, stepped, holds⟩ := serves.step adjusts (whole closing List.mem_cons_self)
      have same : next = last := by
        rw [List.nil_append, Runs.final_cons, stepped] at reached
        exact Option.some.inj reached
      subst same
      rcases CellEntry.step_drafted drafted (spares closing List.mem_cons_self) with ends | stays
      · obtain ⟨answers, answered, -, sheet⟩ := ends
        refine ⟨control, answers, draft.2, _, rfl, answered, ?_, holds, ?_⟩
        · rw [serves.editBox, drafted]
          rfl
        · rw [sheet]
          cases taken : answers.str draft.2 with
          | some str => simp only [CellEntry.close, drafted, taken]
          | none => simp only [CellEntry.close, drafted, taken]
      · obtain ⟨text, still, -⟩ := stays
        rw [holds.editing, still] at closed
        cases closed
  | cons input rest ih =>
      obtain ⟨-, later⟩ := editing
      obtain ⟨next, stepped, holds⟩ := serves.step adjusts (whole input List.mem_cons_self)
      have edits : next.grid.editing = true := by
        have remaining := later next stepped
        cases rest with
        | nil => exact remaining.1
        | cons other others => exact remaining.1
      rcases CellEntry.step_drafted drafted (spares input List.mem_cons_self) with ends | stays
      · obtain ⟨answers, -, gone, -⟩ := ends
        rw [holds.editing, gone] at edits
        cases edits
      · obtain ⟨text, still, sheet⟩ := stays
        have ran : Runs.final (GridControl.step virtual) next (rest ++ [closing]) = some last := by
          rw [List.cons_append, Runs.final_cons, stepped] at reached
          exact reached
        obtain ⟨middle, answers, box, after, met, answered, shown, serving, final⟩ :=
          ih holds still (by rw [sheet]; exact adjusts)
            (fun other member => whole other (List.mem_cons_of_mem input member))
            (fun other member => spares other (List.mem_cons_of_mem input member))
            (later next stepped) ran
        refine ⟨middle, answers, box, after, ?_, answered, shown, serving, ?_⟩
        · rw [Runs.final_cons, stepped]
          exact met
        · rw [final, sheet]

/-- When a box is closed at the end of a run, the cell that had the focus when the run began gets
what the parent leaves of the text in the box, if the parent takes it. Every other text is what it
was. -/
theorem draft_commits (virtual : GridOverrides) (control : GridControl) (entry : CellEntry)
    (serves : control.Serves entry)
    (adjusts : virtual.AdjustsInside entry.sheet.rows entry.sheet.columns)
    (during : List EditInput) (closing : EditInput) (last : GridControl)
    (whole : ∀ input ∈ during ++ [closing], input.Whole)
    (spares : ∀ input ∈ during ++ [closing], ¬ input.Deletes)
    (editing : Runs.Along (step virtual) (fun control _ => control.grid.editing = true) control
      (during ++ [closing]))
    (reached : Runs.final (step virtual) control (during ++ [closing]) = some last)
    (closed : last.grid.editing = false) :
    ∃ middle answers box, Runs.final (step virtual) control during = some middle ∧
      closing.answers = some answers ∧ middle.editBox = some box ∧
      ∀ x y, control.grid.inGrid x y = true → last.textAt x y =
        if (x, y) = (control.grid.focusedX, control.grid.focusedY) then
          (answers.str box).or (control.textAt x y)
        else control.textAt x y := by
  have edits : control.grid.editing = true := by
    cases during with
    | nil => exact editing.1
    | cons input rest => exact editing.1
  obtain ⟨draft, drafted⟩ : ∃ draft, entry.draft = some draft := by
    rw [← Option.isSome_iff_exists, ← serves.editing]
    exact edits
  obtain ⟨middle, answers, box, after, met, answered, shown, serving, sheet⟩ :=
    serves.drafted drafted adjusts whole spares editing reached closed
  have focus : (control.grid.focusedX, control.grid.focusedY) = draft.1 :=
    serves.shows.focus.trans (serves.cell draft drafted).symm
  refine ⟨middle, answers, box, met, answered, shown, ?_⟩
  intro x y inside
  have cell : (x, y) ∈ Pointing.cells entry.sheet.rows entry.sheet.columns :=
    serves.shows.inGrid_iff.mp inside
  obtain ⟨left, -, top, -⟩ := id cell
  dsimp only at left top
  have still : last.grid.inGrid x y = true := by
    apply serving.shows.inGrid_iff.mpr
    rw [sheet]
    split
    · exact cell
    · exact cell
  rw [serving.textAt_eq still, serves.textAt_eq inside, sheet, focus]
  cases answers.str box with
  | some str =>
      dsimp only
      rw [Sheet.textAt, Sheet.withText]
      dsimp only
      rw [Int.toNat_of_nonneg left, Int.toNat_of_nonneg top]
      by_cases here : (x, y) = draft.1
      · rw [if_pos here, if_pos here]
        rfl
      · rw [if_neg here, if_neg here]
        rfl
  | none =>
      rw [Option.none_or, ite_self]

def focusedControl (editing : Bool) (text : List Char) : GridControl :=
  ⟨{ GridView.ofTable 2 2 fun x y => if x = 1 ∧ y = 0 then ⟨text, false, false, 0⟩ else .blank with
      focusedX := 1, focusedY := 0, editing := editing },
    if editing then some [] else none, true, !editing⟩

/-- A parent that puts a `b` there. -/
def correcting : BoxAnswers := ⟨true, .altered [Char.ofNat 98], true⟩

theorem draft_commits_corrected :
    ∃ middle answers box,
      Runs.final (step .base) (focusedControl true []) [.boxEdited [Char.ofNat 97]] = some middle ∧
      EditInput.answers (.setFocus correcting) = some answers ∧ middle.editBox = some box ∧
      ∀ x y, (focusedControl true []).grid.inGrid x y = true →
        (focusedControl false [Char.ofNat 98]).textAt x y =
          if (x, y) = ((focusedControl true []).grid.focusedX,
              (focusedControl true []).grid.focusedY) then
            (answers.str box).or ((focusedControl true []).textAt x y)
          else (focusedControl true []).textAt x y := by
  have stored : (focusedControl false []).grid.Represents
      ⟨2, 2, fun x y => if x = 1 ∧ y = 0 then ⟨[], false, false, 0⟩ else .blank⟩ := by
    have blank := GridView.ofTable_represents (by decide : 0 < 2) (by decide : 0 < 2)
      fun x y => if x = 1 ∧ y = 0 then (⟨[], false, false, 0⟩ : GridControlItem) else .blank
    exact ⟨blank.numRows, blank.numColumns, blank.stored, blank.null⟩
  have placed : ((focusedControl false []).grid.pointing
      ⟨2, 2, fun x y => if x = 1 ∧ y = 0 then ⟨[], false, false, 0⟩ else .blank⟩).Placed 2 2 :=
    Or.inr (by decide)
  have serves := (serves_idleEntry stored rfl rfl rfl placed).opened [] true
  refine draft_commits .base (focusedControl true []) _ serves
    (GridView.base_adjustsInside 2 2) [.boxEdited [Char.ofNat 97]] (.setFocus correcting) _
    ?_ ?_ ?_ rfl rfl
  · intro input member
    rcases List.mem_cons.mp member with rfl | member
    · trivial
    · rw [List.mem_singleton.mp member]
      trivial
  · intro input member
    rcases List.mem_cons.mp member with rfl | member
    · exact id
    · rw [List.mem_singleton.mp member]
      exact id
  · decide

end Session

end GridControl

end LeanMiniViews
