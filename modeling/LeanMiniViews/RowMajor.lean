import Mathlib.Order.Lattice
import Mathlib.Data.List.Basic

/-!
Cells row by row, and from left to right in a row: their order, and the first and last of them
that pass a test.
-/

namespace RowMajor

variable {α : Type}

def cells (columns rows : List α) : List (α × α) :=
  rows.flatMap fun y => columns.map fun x => (x, y)

theorem mem_cells {columns rows : List α} {cell : α × α} :
    cell ∈ cells columns rows ↔ cell.1 ∈ columns ∧ cell.2 ∈ rows := by
  rw [cells, List.mem_flatMap]
  constructor
  · rintro ⟨y, inRows, member⟩
    obtain ⟨x, inColumns, rfl⟩ := List.mem_map.mp member
    exact ⟨inColumns, inRows⟩
  · rintro ⟨inColumns, inRows⟩
    exact ⟨cell.2, inRows, List.mem_map.mpr ⟨cell.1, inColumns, rfl⟩⟩

section Order

variable [LinearOrder α]

def Precedes (first second : α × α) : Prop :=
  first.2 < second.2 ∨ first.2 = second.2 ∧ first.1 < second.1

instance : DecidableRel (@Precedes α _) :=
  fun first second => inferInstanceAs (Decidable (first.2 < second.2 ∨ _ ∧ _))

theorem Precedes.irrefl (cell : α × α) : ¬ Precedes cell cell := by simp [Precedes]

theorem Precedes.trans {first second third : α × α} (front : Precedes first second)
    (back : Precedes second third) : Precedes first third := by
  rcases front with above | ⟨sameRow, left⟩
  · rcases back with below | ⟨sameBelow, -⟩
    · exact .inl (above.trans below)
    · exact .inl (sameBelow ▸ above)
  · rcases back with below | ⟨sameBelow, right⟩
    · exact .inl (sameRow ▸ below)
    · exact .inr ⟨sameRow.trans sameBelow, left.trans right⟩

theorem row_pairwise {columns : List α} (columnsAscend : columns.Pairwise (· < ·)) (y : α) :
    (columns.map fun x => (x, y)).Pairwise Precedes := by
  rw [List.pairwise_map]
  exact columnsAscend.imp fun less => .inr ⟨rfl, less⟩

theorem cells_pairwise {columns rows : List α} (columnsAscend : columns.Pairwise (· < ·))
    (rowsAscend : rows.Pairwise (· < ·)) : (cells columns rows).Pairwise Precedes := by
  rw [cells, List.pairwise_flatMap]
  refine ⟨fun y _ => row_pairwise columnsAscend y, rowsAscend.imp ?_⟩
  intro above below less first inFirst second inSecond
  obtain ⟨-, -, rfl⟩ := List.mem_map.mp inFirst
  obtain ⟨-, -, rfl⟩ := List.mem_map.mp inSecond
  exact .inl less

end Order

/-- What a search through an ordered list finds comes before everything else that it looks for. -/
theorem find?_first {Place : Type} {before : Place → Place → Prop} {places : List Place}
    (sorted : places.Pairwise before) {test : Place → Bool} {found : Place}
    (finds : places.find? test = some found) :
    ∀ place ∈ places, test place = true → place = found ∨ before found place := by
  induction places with
  | nil => contradiction
  | cons first rest ih =>
      obtain ⟨ahead, ordered⟩ := List.pairwise_cons.mp sorted
      intro place member holds
      cases passes : test first with
      | true =>
          rw [List.find?_cons_of_pos passes, Option.some.injEq] at finds
          obtain same | inRest := List.mem_cons.mp member
          · exact .inl (same.trans finds)
          · exact .inr (finds ▸ ahead place inRest)
      | false =>
          rw [List.find?_cons_of_neg (by simp [passes])] at finds
          obtain rfl | inRest := List.mem_cons.mp member
          · rw [passes] at holds
            contradiction
          · exact ih ordered finds place inRest holds

end RowMajor
