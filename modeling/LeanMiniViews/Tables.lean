import LeanMiniViews.Loops
import Mathlib.Data.List.Basic

/-!
Tables in memory: a pointer to rows, which may be null, and accesses that have no result where
there is no such row or cell.
-/

namespace Tables

variable {α : Type}

def tabulate (rows columns : Nat) (cell : Nat → Nat → α) : List (List α) :=
  (List.range rows).map fun y => (List.range columns).map fun x => cell x y

def read (table : Option (List (List α))) (x y : Int) : Option α :=
  table.bind fun rows =>
    if 0 ≤ x ∧ 0 ≤ y then rows[y.toNat]?.bind fun row => row[x.toNat]? else none

def write (table : Option (List (List α))) (x y : Int) (value : α) :
    Option (Option (List (List α))) :=
  (read table x y).map fun _ =>
    table.map fun rows => rows.modify y.toNat fun row => row.set x.toNat value

def put (cell : Nat → Nat → α) (x y : Nat) (value : α) : Nat → Nat → α :=
  fun otherX otherY => if otherX = x ∧ otherY = y then value else cell otherX otherY

section Cells

variable {rows columns : Nat} {cell other : Nat → Nat → α}

theorem tabulate_length : (tabulate rows columns cell).length = rows := by simp [tabulate]

theorem tabulate_row {y : Nat} (inRows : y < rows) :
    (tabulate rows columns cell)[y]? = some ((List.range columns).map fun x => cell x y) := by
  rw [tabulate, List.getElem?_map, List.getElem?_range inRows, Option.map_some]

theorem tabulate_congr (same : ∀ x y, x < columns → y < rows → cell x y = other x y) :
    tabulate rows columns cell = tabulate rows columns other := by
  apply List.map_congr_left
  intro y inRows
  apply List.map_congr_left
  intro x inColumns
  exact same x y (List.mem_range.mp inColumns) (List.mem_range.mp inRows)

theorem read_tabulate {x y : Nat} (inColumns : x < columns) (inRows : y < rows) :
    read (some (tabulate rows columns cell)) x y = some (cell x y) := by
  rw [read, Option.bind_some, if_pos ⟨Int.natCast_nonneg x, Int.natCast_nonneg y⟩,
    Int.toNat_natCast, Int.toNat_natCast, tabulate_row inRows, Option.bind_some,
    List.getElem?_map, List.getElem?_range inColumns, Option.map_some]

theorem write_tabulate {x y : Nat} (inColumns : x < columns) (inRows : y < rows) (value : α) :
    write (some (tabulate rows columns cell)) x y value =
      some (some (tabulate rows columns (put cell x y value))) := by
  rw [write, read_tabulate inColumns inRows, Option.map_some, Option.map_some,
    Int.toNat_natCast, Int.toNat_natCast]
  congr 2
  apply List.ext_getElem?
  intro row
  by_cases inside : row < rows
  · rw [List.getElem?_modify, tabulate_row inside, tabulate_row inside]
    by_cases isRow : y = row
    · subst isRow
      simp only [↓reduceIte, Option.map_eq_map, Option.map_some]
      congr 1
      apply List.ext_getElem?
      intro column
      by_cases isColumn : x = column
      · subst isColumn
        simp [put, inColumns]
      · rw [List.getElem?_set_ne isColumn]
        by_cases within : column < columns
        · simp [put, within, Ne.symm isColumn]
        · simp [within]
    · simp [put, isRow, Ne.symm isRow]
  · have beyond (cell : Nat → Nat → α) : (tabulate rows columns cell)[row]? = none := by
      rw [List.getElem?_eq_none_iff, tabulate_length]
      omega
    rw [List.getElem?_modify, beyond, beyond]
    rfl

end Cells

/-- The cells after a loop over some rows and columns has come to a place. -/
def written (cell value : Nat → Nat → α) (first columns x y : Nat) : Nat → Nat → α :=
  fun otherX otherY =>
    if otherX < columns ∧ first ≤ otherY ∧
        (otherY < first + y ∨ otherY = first + y ∧ otherX < x) then value otherX otherY
    else cell otherX otherY

/-- A loop that writes each cell of some rows and columns, with values that come from anywhere,
the cells not yet written included. -/
theorem each_write {rows columns first someRows someColumns : Nat} {cell value : Nat → Nat → α}
    (inRows : first + someRows ≤ rows) (inColumns : someColumns ≤ columns)
    {source : Nat → Nat → Option (List (List α)) → Option α}
    (given : ∀ x y, x < someColumns → y < someRows →
      source x y (some (tabulate rows columns (written cell value first someColumns x y))) =
        some (value x (first + y))) :
    Loops.each someRows someColumns
        (fun x y table => (source x y table).bind fun item =>
          write table x ((first : Int) + y) item)
        (some (tabulate rows columns cell)) =
      some (some (tabulate rows columns (written cell value first someColumns 0 someRows))) := by
  let invariant (x y : Nat) (table : Option (List (List α))) : Prop :=
    table = some (tabulate rows columns (written cell value first someColumns x y))
  have congr {before after : Nat → Nat → α}
      (same : ∀ x y, x < columns → y < rows → before x y = after x y) :
      some (tabulate rows columns before) = some (tabulate rows columns after) :=
    congrArg some (tabulate_congr same)
  have initial : invariant 0 0 (some (tabulate rows columns cell)) := by
    apply congr
    intro x y _ _
    rw [written, if_neg (by omega)]
  have wraps (y : Nat) (table : Option (List (List α))) (holds : invariant someColumns y table) :
      invariant 0 (y + 1) table := by
    rw [holds]
    apply congr
    intro otherX otherY _ _
    rw [written, written]
    exact if_congr (by omega) rfl rfl
  have kept (x y : Nat) (table : Option (List (List α))) (here : x < someColumns)
      (there : y < someRows) (holds : invariant x y table) :
      ∃ next, ((source x y table).bind fun item => write table x ((first : Int) + y) item) =
        some next ∧ invariant (x + 1) y next := by
    have place : ((first : Int) + (y : Int)) = ((first + y : Nat) : Int) := by push_cast; rfl
    rw [holds, given x y here there, Option.bind_some, place,
      write_tabulate (by omega) (by omega)]
    refine ⟨_, rfl, ?_⟩
    apply congr
    intro otherX otherY _ _
    by_cases isPlace : otherX = x ∧ otherY = first + y
    · obtain ⟨rfl, rfl⟩ := isPlace
      rw [put, if_pos ⟨rfl, rfl⟩, written, if_pos (by omega)]
    · rw [put, if_neg isPlace, written, written]
      exact if_congr (by omega) rfl rfl
  obtain ⟨last, reached, final⟩ := Loops.each_of_invariant initial kept wraps
  rw [reached, final]

theorem each_write_front {rows columns someRows someColumns : Nat} {cell value : Nat → Nat → α}
    (inRows : someRows ≤ rows) (inColumns : someColumns ≤ columns)
    {source : Nat → Nat → Option (List (List α)) → Option α}
    (given : ∀ x y, x < someColumns → y < someRows →
      source x y (some (tabulate rows columns (written cell value 0 someColumns x y))) =
        some (value x y)) :
    Loops.each someRows someColumns
        (fun x y table => (source x y table).bind fun item => write table x y item)
        (some (tabulate rows columns cell)) =
      some (some (tabulate rows columns (written cell value 0 someColumns 0 someRows))) := by
  have front := @each_write α rows columns 0 someRows someColumns cell value (by omega) inColumns
    source (by simpa only [Nat.zero_add] using given)
  simpa using front

/-- The cells after a loop over a rectangle has come to a place of it, each changed by itself. -/
def changed (cell : Nat → Nat → α) (left top width : Nat) (change : Nat → Nat → α → α)
    (x y : Nat) : Nat → Nat → α :=
  fun otherX otherY =>
    if left ≤ otherX ∧ otherX < left + width ∧ top ≤ otherY ∧
        (otherY < top + y ∨ otherY = top + y ∧ otherX < left + x) then
      change otherX otherY (cell otherX otherY)
    else cell otherX otherY

/-- A loop that changes each cell of a rectangle, by a body that may leave a cell as it is. -/
theorem each_change {rows columns left top width height : Nat} {cell : Nat → Nat → α}
    {change : Nat → Nat → α → α} {body : Nat → Nat → Option (List (List α)) →
      Option (Option (List (List α)))}
    (changes : ∀ x y before, x < width → y < height →
      body x y (some (tabulate rows columns before)) =
        some (some (tabulate rows columns
          (put before (left + x) (top + y) (change (left + x) (top + y)
            (before (left + x) (top + y))))))) :
    Loops.each height width body (some (tabulate rows columns cell)) =
      some (some (tabulate rows columns (changed cell left top width change 0 height))) := by
  let invariant (x y : Nat) (table : Option (List (List α))) : Prop :=
    table = some (tabulate rows columns (changed cell left top width change x y))
  have congr {before after : Nat → Nat → α}
      (same : ∀ x y, x < columns → y < rows → before x y = after x y) :
      some (tabulate rows columns before) = some (tabulate rows columns after) :=
    congrArg some (tabulate_congr same)
  have initial : invariant 0 0 (some (tabulate rows columns cell)) := by
    apply congr
    intro x y _ _
    rw [changed, if_neg (by omega)]
  have wraps (y : Nat) (table : Option (List (List α))) (holds : invariant width y table) :
      invariant 0 (y + 1) table := by
    rw [holds]
    apply congr
    intro otherX otherY _ _
    rw [changed, changed]
    exact if_congr (by omega) rfl rfl
  have kept (x y : Nat) (table : Option (List (List α))) (here : x < width) (there : y < height)
      (holds : invariant x y table) :
      ∃ next, body x y table = some next ∧ invariant (x + 1) y next := by
    rw [holds, changes x y _ here there]
    refine ⟨_, rfl, ?_⟩
    apply congr
    intro otherX otherY _ _
    by_cases isPlace : otherX = left + x ∧ otherY = top + y
    · obtain ⟨rfl, rfl⟩ := isPlace
      rw [put, if_pos ⟨rfl, rfl⟩, changed, changed, if_neg (by omega), if_pos (by omega)]
    · rw [put, if_neg isPlace, changed, changed]
      exact if_congr (by omega) rfl rfl
  obtain ⟨last, reached, final⟩ := Loops.each_of_invariant initial kept wraps
  rw [reached, final]

end Tables
