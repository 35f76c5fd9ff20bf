import LeanMiniViews.Chunks
import LeanMiniViews.IcuFromUtf8
import LeanMiniViews.IcuToUtf8

/-!
A plain reader of a source, one code point at a time, and what the loops that write several of
them without a look at the limit have to do with it.
-/

namespace LeanMiniViews.Icu

open ChunkReader

/-- One code point after the other, each written in the other form. -/
def reader {From To : Type} (read : From → List From → Except Failure (Nat × List From))
    (append : Nat → List To) : ChunkReader Failure (List From) To
  | [] => none
  | first :: rest => some ((read first rest).map fun found => (append found.1, found.2))

abbrev reader16 (subchar : Option Nat) : ChunkReader Failure (List UInt16) UInt8 :=
  reader (readUTF16 subchar) appendUTF8

abbrev reader8 (subchar : Option Nat) : ChunkReader Failure (List UInt8) UInt16 :=
  reader (readUTF8 subchar) appendUTF16

section Reading

variable {From To : Type} {read : From → List From → Except Failure (Nat × List From)}
  {append : Nat → List To} {source : List From}

theorem reader_ended (ended : reader read append source = none) : source = [] := by
  cases source with
  | nil => rfl
  | cons first rest => cases ended

theorem reader_failed {failure : Failure}
    (failed : reader read append source = some (.error failure)) :
    ∃ first rest, source = first :: rest ∧ read first rest = .error failure := by
  cases source with
  | nil => cases failed
  | cons first rest =>
      refine ⟨first, rest, rfl, ?_⟩
      cases found : read first rest with
      | ok code =>
          rw [reader, found] at failed
          cases failed
      | error other =>
          rw [reader, found] at failed
          cases failed
          rfl

theorem reader_more {chunk : List To} {later : List From}
    (more : reader read append source = some (.ok (chunk, later))) :
    ∃ first rest c, source = first :: rest ∧ chunk = append c ∧
      read first rest = .ok (c, later) := by
  cases source with
  | nil => cases more
  | cons first rest =>
      cases found : read first rest with
      | error failure =>
          rw [reader, found] at more
          cases more
      | ok code =>
          rw [reader, found] at more
          cases more
          exact ⟨first, rest, code.1, rfl, rfl, found⟩

end Reading

theorem legalSubchar_mark (mark : Option Char) : legalSubchar (mark.map Char.toNat) = true := by
  cases mark with
  | none => rfl
  | some mark => exact legalSubchar_char mark

/-! Writing what was read. -/

section Writing

variable {Source Unit : Type} {next : ChunkReader Failure Source Unit}

structure Wrote (next : ChunkReader Failure Source Unit) (chunks : List (List Unit))
    (source later : Source) (target reached : Target Unit) : Prop where
  reads : Reads next source chunks later
  written_eq : reached.written = target.written ++ chunks.flatten
  room_eq : reached.room + chunks.flatten.length = target.room

theorem Wrote.refl (source : Source) (target : Target Unit) :
    Wrote next [] source source target target :=
  ⟨.nil source, (List.append_nil _).symm, Nat.add_zero _⟩

theorem Wrote.trans {first second : List (List Unit)} {source middle later : Source}
    {target between reached : Target Unit} (before : Wrote next first source middle target between)
    (after : Wrote next second middle later between reached) :
    Wrote next (first ++ second) source later target reached := by
  constructor
  · exact before.reads.trans after.reads
  · rw [after.written_eq, before.written_eq, List.flatten_append, List.append_assoc]
  · have left := before.room_eq
    have right := after.room_eq
    rw [List.flatten_append, List.length_append]
    omega

/-- `loop` gets to some place between two chunks, or to a failure that the reader has as well. -/
def Advances (next : ChunkReader Failure Source Unit) (source : Source) (target : Target Unit) :
    Except Failure (Source × Target Unit) → Prop
  | .ok (later, reached) => ∃ chunks, Wrote next chunks source later target reached
  | .error failure => Whole next source (.error failure)

theorem Advances.refl (source : Source) (target : Target Unit) :
    Advances next source target (.ok (source, target)) := ⟨[], .refl source target⟩

theorem Wrote.advances {chunks : List (List Unit)} {source middle : Source}
    {target between : Target Unit} {result : Except Failure (Source × Target Unit)}
    (wrote : Wrote next chunks source middle target between)
    (advances : Advances next middle between result) : Advances next source target result := by
  cases result with
  | ok reached =>
      obtain ⟨more, after⟩ := advances
      exact ⟨chunks ++ more, wrote.trans after⟩
  | error failure => exact wrote.reads.whole advances

theorem Wrote.put {source middle : Source} {chunk : List Unit} (target : Target Unit)
    (read : next source = some (.ok (chunk, middle))) (room : chunk.length ≤ target.room) :
    ∃ reached, target.put chunk = .ok reached ∧
      Wrote next [chunk] source middle target reached := by
  refine ⟨⟨target.written ++ chunk, target.room - chunk.length⟩, if_pos room, ?_, ?_, ?_⟩
  · exact .cons read (.nil middle)
  · rw [List.flatten_singleton]
  · rw [List.flatten_singleton]
    exact Nat.sub_add_cancel room

/-- One chunk, and `loop` for what is left. -/
theorem advances_read {source : Source} {target : Target Unit} {Code : Type}
    {read : Except Failure (Code × Source)} {append : Code → List Unit}
    {loop : Source → Target Unit → Except Failure (Source × Target Unit)}
    (reader : next source = some (read.map fun found => (append found.1, found.2)))
    (continues : ∀ c later, read = .ok (c, later) → (append c).length ≤ target.room ∧
      ∀ reached : Target Unit, reached.room + (append c).length = target.room →
        Advances next later reached (loop later reached)) :
    Advances next source target (do
      let found ← read
      loop found.2 (← target.put (append found.1))) := by
  cases read with
  | error failure => exact Whole.failed reader
  | ok found =>
      obtain ⟨room, later⟩ := continues found.1 found.2 rfl
      obtain ⟨reached, put, wrote⟩ := Wrote.put target reader room
      have left := wrote.room_eq
      rw [List.flatten_singleton] at left
      simp only [bind, Except.bind, put]
      exact wrote.advances (later reached left)

end Writing

end LeanMiniViews.Icu
