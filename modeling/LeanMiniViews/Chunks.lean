import Mathlib.Data.List.Basic

/-!
A source that is read in chunks, all of it or as far as some place, and the chunks that a buffer
has room for.
-/

namespace LeanMiniViews

/-- The next chunk and what is left then, unless the source is at its end. -/
abbrev ChunkReader (Failure Source Unit : Type) :=
  Source → Option (Except Failure (List Unit × Source))

namespace ChunkReader

variable {Failure Source Unit : Type}

inductive Reads (next : ChunkReader Failure Source Unit) : Source → List (List Unit) → Source → Prop
  | nil (source : Source) : Reads next source [] source
  | cons {source middle later : Source} {chunk : List Unit} {chunks : List (List Unit)} :
      next source = some (.ok (chunk, middle)) → Reads next middle chunks later →
        Reads next source (chunk :: chunks) later

inductive Whole (next : ChunkReader Failure Source Unit) :
    Source → Except Failure (List (List Unit)) → Prop
  | ended {source : Source} : next source = none → Whole next source (.ok [])
  | failed {source : Source} {failure : Failure} :
      next source = some (.error failure) → Whole next source (.error failure)
  | more {source middle : Source} {chunk : List Unit} {result : Except Failure (List (List Unit))} :
      next source = some (.ok (chunk, middle)) → Whole next middle result →
        Whole next source (result.map (chunk :: ·))

variable {next : ChunkReader Failure Source Unit} {source middle later : Source}

theorem Reads.trans {first second : List (List Unit)} (before : Reads next source first middle)
    (after : Reads next middle second later) : Reads next source (first ++ second) later := by
  induction before with
  | nil _ => exact after
  | cons read _ ih => exact .cons read (ih after)

theorem Reads.whole {chunks : List (List Unit)} {result : Except Failure (List (List Unit))}
    (reads : Reads next source chunks middle) (whole : Whole next middle result) :
    Whole next source (result.map (chunks ++ ·)) := by
  induction reads with
  | nil _ =>
      cases result with
      | ok chunks => exact whole
      | error failure => exact whole
  | cons read _ ih =>
      have later := Whole.more read (ih whole)
      cases result with
      | ok chunks => exact later
      | error failure => exact later

theorem Whole.unique {result other : Except Failure (List (List Unit))}
    (whole : Whole next source result) (again : Whole next source other) : result = other := by
  induction whole generalizing other with
  | ended atEnd =>
      cases again with
      | ended _ => rfl
      | failed read => rw [atEnd] at read; cases read
      | more read _ => rw [atEnd] at read; cases read
  | failed failed =>
      cases again with
      | ended read => rw [failed] at read; cases read
      | failed read => rw [failed] at read; cases read; rfl
      | more read _ => rw [failed] at read; cases read
  | more took _ ih =>
      cases again with
      | ended read => rw [took] at read; cases read
      | failed read => rw [took] at read; cases read
      | more read rest =>
          rw [took] at read
          cases read
          rw [ih rest]

end ChunkReader

/-! Whole chunks go into a buffer, until one has no room. -/

def fitting {Unit : Type} : Nat → List (List Unit) → List (List Unit)
  | _, [] => []
  | room, chunk :: chunks =>
      if chunk.length ≤ room then chunk :: fitting (room - chunk.length) chunks else []

section Fitting

variable {Unit : Type}

theorem fitting_append {room : Nat} {first : List (List Unit)} (rest : List (List Unit))
    (fits : first.flatten.length ≤ room) :
    fitting room (first ++ rest) = first ++ fitting (room - first.flatten.length) rest := by
  induction first generalizing room with
  | nil => rfl
  | cons chunk first ih =>
      rw [List.flatten_cons, List.length_append] at fits
      rw [List.cons_append, fitting, if_pos (by omega), ih (by omega), List.flatten_cons,
        List.length_append, Nat.sub_sub, List.cons_append]

/-- What fits is cut off where the next chunk has no room. -/
theorem exists_fitting (room : Nat) (chunks : List (List Unit)) :
    ∃ rest, chunks = fitting room chunks ++ rest ∧ (fitting room chunks).flatten.length ≤ room ∧
      ∀ chunk ∈ rest.head?, room < (fitting room chunks).flatten.length + chunk.length := by
  induction chunks generalizing room with
  | nil => exact ⟨[], rfl, Nat.zero_le room, by simp⟩
  | cons chunk chunks ih =>
      by_cases fits : chunk.length ≤ room
      · obtain ⟨rest, whole, inside, next⟩ := ih (room - chunk.length)
        rw [fitting, if_pos fits]
        refine ⟨rest, ?_, ?_, ?_⟩
        · rw [List.cons_append, ← whole]
        · rw [List.flatten_cons, List.length_append]
          omega
        · intro other first
          have beyond := next other first
          rw [List.flatten_cons, List.length_append]
          omega
      · refine ⟨chunk :: chunks, ?_, ?_, ?_⟩
        · rw [fitting, if_neg fits, List.nil_append]
        · rw [fitting, if_neg fits]
          exact Nat.zero_le room
        · intro other first
          obtain rfl : chunk = other := by simpa using first
          rw [fitting, if_neg fits, List.flatten_nil, List.length_nil]
          omega

end Fitting

end LeanMiniViews
