import LeanMiniViews.IcuReader

/-!
`u_strToUTF8WithSub` into a buffer of any size, with any character to put in the place of a
surrogate that is no part of one, or none: its three loops agree with the plain reader.
-/

namespace LeanMiniViews.Icu

open Unicode ChunkReader

/-- The characters of a sequence, with the mark for each surrogate that is no part of one. -/
def decodeWith (mark : Option Char) (units : List UInt16) : Option (List Char) :=
  (pieces units).mapM fun piece => piece.character?.or mark

theorem length_appendUTF8_le (c : Nat) :
    (appendUTF8 c).length ≤ 4 ∧ (c ≤ 0xffff → (appendUTF8 c).length ≤ 3) := by
  unfold appendUTF8
  repeat' split
  all_goals simp only [List.length_cons, List.length_nil]
  all_goals omega

/-- One piece of the source is read, whether it is a character or not. -/
theorem readUTF16_piece (mark : Option Char) (unit : UInt16) (rest : List UInt16) :
    ∃ piece later, pieces (unit :: rest) = piece :: pieces later ∧
      rest.length ≤ later.length + 1 ∧ later.length ≤ rest.length ∧
      readUTF16 (mark.map Char.toNat) unit rest =
        match piece.character?.or mark with
        | some c => .ok (c.toNat, later)
        | none => .error .invalidCharFound := by
  have small := unit.toNat_lt
  have substituted : substitute (mark.map Char.toNat) rest =
      match (none : Option Char).or mark with
      | some c => .ok (c.toNat, rest)
      | none => .error .invalidCharFound := by
    cases mark with
    | none => rfl
    | some mark => rfl
  by_cases plain : unit.toNat ≤ 0xd7ff ∨ unit.toNat ≥ 0xe000
  · have notLead : ¬ IsLead unit := by
      unfold IsLead
      omega
    have notSurrogate : ¬ (IsLead unit ∨ IsTrail unit) := by
      unfold IsLead IsTrail
      omega
    refine ⟨.character (Char.ofNat unit.toNat), rest, ?_, Nat.le_succ _, Nat.le_refl _, ?_⟩
    · rw [pieces_cons_of_not_lead notLead, single, if_neg notSurrogate]
    · simp only [readUTF16, if_pos plain, Piece.character?, Option.or]
      rw [toNat_ofNat (by omega)]
  · have surrogate : IsLead unit ∨ IsTrail unit := by
      unfold IsLead IsTrail
      omega
    have range : 0xd800 ≤ unit.toNat ∧ unit.toNat < 0xe000 := by omega
    cases rest with
    | nil =>
        refine ⟨.unpaired unit, [], pieces_cons_of_unpaired surrogate (by simp), Nat.zero_le _,
          Nat.le_refl _, ?_⟩
        simp only [readUTF16, if_neg plain]
        exact substituted
    | cons ch2 later =>
        have read : readUTF16 (mark.map Char.toNat) unit (ch2 :: later) =
            if IsLead unit ∧ IsTrail ch2 then
              .ok (getSupplementary unit.toNat ch2.toNat, later)
            else substitute (mark.map Char.toNat) (ch2 :: later) := by
          simp only [readUTF16, if_neg plain, Bool.and_eq_true, isSurrogateLead_iff range,
            isTrail_iff]
          simp only [IsLead, range.1, true_and]
        by_cases pair : IsLead unit ∧ IsTrail ch2
        · refine ⟨.character (joined unit ch2), later, pieces_cons_of_pair pair.1 pair.2 later,
            Nat.le_refl _, Nat.le_succ _, ?_⟩
          rw [read, if_pos pair, getSupplementary_eq pair.1 pair.2]
          rfl
        · have alone : ∀ next ∈ (ch2 :: later).head?, ¬ (IsLead unit ∧ IsTrail next) := by
            intro next found
            obtain rfl : ch2 = next := by simpa using found
            exact pair
          refine ⟨.unpaired unit, ch2 :: later, pieces_cons_of_unpaired surrogate alone,
            Nat.le_succ _, Nat.le_refl _, ?_⟩
          rw [read, if_neg pair]
          exact substituted

theorem readUTF16_ok {mark : Option Char} {unit : UInt16} {rest later : List UInt16} {c : Nat}
    (read : readUTF16 (mark.map Char.toNat) unit rest = .ok (c, later)) :
    rest.length ≤ later.length + 1 ∧ later.length ≤ rest.length ∧
      ∃ char : Char, c = char.toNat := by
  obtain ⟨piece, after, -, more, fewer, same⟩ := readUTF16_piece mark unit rest
  rw [same] at read
  split at read
  · rename_i char _
    cases read
    exact ⟨more, fewer, char, rfl⟩
  · cases read

theorem whole_reader16 (mark : Option Char) (source : List UInt16) :
    Whole (reader16 (mark.map Char.toNat)) source
      (match decodeWith mark source with
      | some characters => .ok (characters.map utf8)
      | none => .error .invalidCharFound) := by
  induction length : source.length using Nat.strongRecOn generalizing source with
  | ind count ih =>
      cases source with
      | nil => exact .ended rfl
      | cons unit rest =>
          obtain ⟨piece, later, cut, -, fewer, read⟩ := readUTF16_piece mark unit rest
          rw [List.length_cons] at length
          have reads : reader16 (mark.map Char.toNat) (unit :: rest) =
              some ((readUTF16 (mark.map Char.toNat) unit rest).map fun read =>
                (appendUTF8 read.1, read.2)) := rfl
          have step : decodeWith mark (unit :: rest) =
              (piece.character?.or mark).bind fun c =>
                (decodeWith mark later).bind fun characters => some (c :: characters) := by
            rw [decodeWith, cut, List.mapM_cons]
            rfl
          rw [read] at reads
          rw [step]
          cases found : piece.character?.or mark with
          | none =>
              rw [found] at reads
              exact .failed reads
          | some c =>
              rw [found] at reads
              have whole := ih later.length (by omega) later rfl
              have more := Whole.more reads whole
              rw [appendUTF8_eq] at more
              cases decoded : decodeWith mark later with
              | none =>
                  rw [decoded] at more
                  exact more
              | some characters =>
                  rw [decoded] at more
                  exact more

theorem toUTF8Unchecked_advances {mark : Option Char} {count : Nat} {source : List UInt16}
    {target : Target UInt8} (units : count ≤ source.length) (room : 3 * count ≤ target.room) :
    Advances (reader16 (mark.map Char.toNat)) source target
      (toUTF8Unchecked (mark.map Char.toNat) count source target) := by
  induction count using Nat.strongRecOn generalizing source target with
  | ind count ih =>
      cases count with
      | zero =>
          rw [toUTF8Unchecked]
          exact .refl source target
      | succ count =>
          cases source with
          | nil => simp at units
          | cons unit rest =>
              rw [List.length_cons] at units
              rw [toUTF8Unchecked.eq_def]
              by_cases plain : unit.toNat ≤ 0xd7ff ∨ unit.toNat ≥ 0xe000
              · have small := unit.toNat_lt
                have bytes := (length_appendUTF8_le unit.toNat).2 (by omega)
                have read : reader16 (mark.map Char.toNat) (unit :: rest) =
                    some (.ok (appendUTF8 unit.toNat, rest)) := by
                  simp only [reader, readUTF16, if_pos plain]
                  rfl
                obtain ⟨reached, put, wrote⟩ := Wrote.put target read (by omega)
                have left := wrote.room_eq
                rw [List.flatten_singleton] at left
                simp only [if_pos plain, put, bind, Except.bind]
                exact wrote.advances (ih count (by omega) (by omega) (by omega))
              · simp only [if_neg plain]
                cases count with
                | zero => exact .refl _ _
                | succ count =>
                    have follows : (isSurrogateLead unit.toNat && rest.isEmpty) = false := by
                      cases rest with
                      | nil => simp at units
                      | cons => exact Bool.and_false _
                    simp only [follows, Bool.false_eq_true, if_false]
                    refine advances_read rfl fun c later read => ?_
                    have bytes := (length_appendUTF8_le c).1
                    obtain ⟨more, -, -⟩ := readUTF16_ok read
                    exact ⟨by omega, fun reached left => ih count (by omega) (by omega) (by omega)⟩

theorem toUTF8Faster_advances (mark : Option Char) (rounds : Nat) (source : List UInt16)
    (target : Target UInt8) :
    Advances (reader16 (mark.map Char.toNat)) source target
      (toUTF8Faster (mark.map Char.toNat) rounds source target) := by
  induction rounds generalizing source target with
  | zero => exact .refl source target
  | succ rounds ih =>
      rw [toUTF8Faster]
      split
      · exact .refl source target
      · have advances := @toUTF8Unchecked_advances mark (min (target.room / 3) source.length)
          source target (Nat.min_le_right _ _) (by omega)
        generalize toUTF8Unchecked (mark.map Char.toNat) (min (target.room / 3) source.length)
          source target = result at advances ⊢
        cases result with
        | ok reached =>
            obtain ⟨chunks, wrote⟩ := advances
            exact wrote.advances (ih reached.1 reached.2)
        | error failure => exact advances

theorem toUTF8Preflight_whole {mark : Option Char} {rounds : Nat} {source : List UInt16}
    {result : Except Failure (List (List UInt8))} (enough : source.length ≤ rounds)
    (whole : Whole (reader16 (mark.map Char.toNat)) source result) (reqLength : Nat) :
    toUTF8Preflight (mark.map Char.toNat) rounds source reqLength =
      result.map fun chunks => reqLength + chunks.flatten.length := by
  induction whole generalizing rounds reqLength with
  | ended atEnd =>
      obtain rfl := reader_ended atEnd
      cases rounds with
      | zero => rfl
      | succ rounds => rfl
  | failed failed =>
      obtain ⟨unit, rest, rfl, read⟩ := reader_failed failed
      cases rounds with
      | zero => cases enough
      | succ rounds =>
          rw [toUTF8Preflight, read]
          rfl
  | @more source middle chunk result more _ ih =>
      obtain ⟨unit, rest, code, rfl, rfl, read⟩ := reader_more more
      obtain ⟨-, fewer, c, rfl⟩ := readUTF16_ok read
      rw [appendUTF8_eq] at more ⊢
      rw [List.length_cons] at enough
      cases rounds with
      | zero => cases enough
      | succ rounds =>
          rw [toUTF8Preflight, read]
          simp only [bind, Except.bind]
          rw [ih (by omega), length8_eq]
          cases result with
          | error failure => rfl
          | ok chunks =>
              simp only [Except.map, List.flatten_cons, List.length_append, Nat.add_assoc]

/-- The loop that looks for the limit, and the count of what it leaves. -/
def toUTF8Rest (subchar : Option Nat) (rounds : Nat) (source : List UInt16)
    (target : Target UInt8) : Except Failure (List UInt8 × Nat) := do
  let checked ← toUTF8Checked subchar rounds source target
  let reqLength ← toUTF8Preflight subchar checked.source.length checked.source checked.reqLength
  return (checked.target.written, reqLength + checked.target.written.length)

theorem toUTF8Rest_nil (subchar : Option Nat) (rounds : Nat) (target : Target UInt8) :
    toUTF8Rest subchar rounds [] target = .ok (target.written, target.written.length) := by
  cases rounds with
  | zero => simp [toUTF8Rest, toUTF8Checked, toUTF8Preflight, bind, Except.bind, pure, Except.pure]
  | succ rounds =>
      simp [toUTF8Rest, toUTF8Checked, toUTF8Preflight, bind, Except.bind, pure, Except.pure]

theorem toUTF8Rest_whole {mark : Option Char} {rounds : Nat} {source : List UInt16}
    {target : Target UInt8} {result : Except Failure (List (List UInt8))}
    (enough : source.length ≤ rounds)
    (whole : Whole (reader16 (mark.map Char.toNat)) source result) :
    toUTF8Rest (mark.map Char.toNat) rounds source target =
      result.map fun chunks => (target.written ++ (fitting target.room chunks).flatten,
        target.written.length + chunks.flatten.length) := by
  induction whole generalizing rounds target with
  | ended atEnd =>
      obtain rfl := reader_ended atEnd
      rw [toUTF8Rest_nil]
      simp [Except.map, fitting]
  | failed failed =>
      obtain ⟨unit, rest, rfl, read⟩ := reader_failed failed
      cases rounds with
      | zero => cases enough
      | succ rounds =>
          rw [toUTF8Rest, toUTF8Checked, read]
          rfl
  | @more source middle chunk result more wholeRest ih =>
      obtain ⟨unit, rest, code, rfl, rfl, read⟩ := reader_more more
      obtain ⟨-, fewer, c, rfl⟩ := readUTF16_ok read
      rw [appendUTF8_eq] at more ⊢
      rw [List.length_cons] at enough
      cases rounds with
      | zero => cases enough
      | succ rounds =>
          by_cases room : (utf8 c).length ≤ target.room
          · have put : target.put (utf8 c) =
                .ok ⟨target.written ++ utf8 c, target.room - (utf8 c).length⟩ := if_pos room
            have next : toUTF8Rest (mark.map Char.toNat) (rounds + 1) (unit :: rest) target =
                toUTF8Rest (mark.map Char.toNat) rounds middle
                  ⟨target.written ++ utf8 c, target.room - (utf8 c).length⟩ := by
              simp only [toUTF8Rest, toUTF8Checked, read, bind, Except.bind, length8_eq,
                appendUTF8_eq, ge_iff_le, if_pos room, put]
            rw [next, ih (by omega)]
            cases result with
            | error failure => rfl
            | ok chunks =>
                simp only [Except.map, fitting, if_pos room, List.flatten_cons, List.append_assoc,
                  List.length_append, Nat.add_assoc]
          · have counted := toUTF8Preflight_whole (Nat.le_refl middle.length) wholeRest
              (utf8 c).length
            have stopped : toUTF8Rest (mark.map Char.toNat) (rounds + 1) (unit :: rest) target =
                (toUTF8Preflight (mark.map Char.toNat) middle.length middle (utf8 c).length).map
                  fun reqLength => (target.written, reqLength + target.written.length) := by
              simp only [toUTF8Rest, toUTF8Checked, read, bind, Except.bind, length8_eq,
                ge_iff_le, if_neg room, pure, Except.pure]
              cases toUTF8Preflight (mark.map Char.toNat) middle.length middle (utf8 c).length with
              | ok reqLength => rfl
              | error failure => rfl
            rw [stopped, counted]
            cases result with
            | error failure => rfl
            | ok chunks =>
                simp only [Except.map, fitting, if_neg room, List.flatten_cons, List.flatten_nil,
                  List.append_nil, List.length_append, Nat.add_comm]

theorem strToUTF8WithSub_whole {mark : Option Char} {capacity : Nat} {source : List UInt16}
    {result : Except Failure (List (List UInt8))}
    (whole : Whole (reader16 (mark.map Char.toNat)) source result) :
    strToUTF8WithSub (mark.map Char.toNat) capacity source =
      result.bind fun chunks =>
        finish capacity (fitting capacity chunks).flatten chunks.flatten.length := by
  have advances := toUTF8Faster_advances mark source.length source ⟨[], capacity⟩
  have split : strToUTF8WithSub (mark.map Char.toNat) capacity source =
      toUTF8Faster (mark.map Char.toNat) source.length source ⟨[], capacity⟩ >>= fun faster =>
        toUTF8Rest (mark.map Char.toNat) faster.1.length faster.1 faster.2 >>= fun ended =>
          finish capacity ended.1 ended.2 := by
    rw [strToUTF8WithSub, if_pos (legalSubchar_mark mark)]
    simp only [toUTF8Rest, bind_assoc, pure_bind]
  rw [split]
  cases faster : toUTF8Faster (mark.map Char.toNat) source.length source ⟨[], capacity⟩ with
  | error failure =>
      rw [faster] at advances
      rw [whole.unique advances]
      rfl
  | ok reached =>
      rw [faster] at advances
      obtain ⟨first, wrote⟩ := advances
      obtain ⟨rest, wholeRest⟩ :
          ∃ rest, Whole (reader16 (mark.map Char.toNat)) reached.1 rest :=
        ⟨_, whole_reader16 mark reached.1⟩
      rw [whole.unique (wrote.reads.whole wholeRest)]
      simp only [bind, Except.bind]
      rw [toUTF8Rest_whole (Nat.le_refl _) wholeRest]
      have written : reached.2.written = first.flatten := wrote.written_eq
      have room : reached.2.room + first.flatten.length = capacity := wrote.room_eq
      cases rest with
      | error failure => rfl
      | ok chunks =>
          simp only [Except.map]
          rw [fitting_append chunks (by omega), written, List.flatten_append, List.flatten_append,
            List.length_append, ← room, Nat.add_sub_cancel]

theorem flatten_map_utf8 (characters : List Char) :
    (characters.map utf8).flatten = toUtf8 characters := by
  rw [toUtf8, List.flatMap_def]

/-- The buffer is too short exactly where a character is left. -/
theorem longer_iff {capacity : Nat} {first rest : List Char}
    (inside : (toUtf8 first).length ≤ capacity)
    (maximal : ∀ c ∈ rest.head?, capacity < (toUtf8 first).length + (utf8 c).length) :
    capacity < (toUtf8 (first ++ rest)).length ↔ rest ≠ [] := by
  rw [toUtf8_append, List.length_append]
  cases rest with
  | nil => simpa [toUtf8] using inside
  | cons c others =>
      have beyond := maximal c rfl
      have bytes : toUtf8 (c :: others) = utf8 c ++ toUtf8 others := List.flatMap_cons ..
      rw [bytes, List.length_append]
      simp only [ne_eq, reduceCtorEq, not_false_eq_true, iff_true]
      omega

/-- No character is split. The length is that of all of them, and the code tells whether the buffer
has all of them. -/
theorem strToUTF8WithSub_capacity (mark : Option Char) (capacity : Nat) (source : List UInt16) :
    match decodeWith mark source with
    | some characters => ∃ first rest, characters = first ++ rest ∧
        (toUtf8 first).length ≤ capacity ∧
        (∀ c ∈ rest.head?, capacity < (toUtf8 first).length + (utf8 c).length) ∧
        if (toUtf8 characters).length < 2147483648 then
          ∃ errorCode, strToUTF8WithSub (mark.map Char.toNat) capacity source =
              .ok ⟨toUtf8 first, (toUtf8 characters).length, errorCode⟩ ∧
            (errorCode = .bufferOverflowError ↔ rest ≠ []) ∧
            (errorCode = .stringNotTerminatedWarning ↔ (toUtf8 characters).length = capacity)
        else strToUTF8WithSub (mark.map Char.toNat) capacity source = .error .overflow
    | none =>
        strToUTF8WithSub (mark.map Char.toNat) capacity source = .error .invalidCharFound := by
  have converted := @strToUTF8WithSub_whole mark capacity source _ (whole_reader16 mark source)
  cases decoded : decodeWith mark source with
  | none =>
      rw [decoded] at converted
      exact converted
  | some characters =>
      rw [decoded] at converted
      obtain ⟨left, cut, inside, next⟩ := exists_fitting capacity (characters.map utf8)
      obtain ⟨first, rest, rfl, fit, others⟩ := List.map_eq_append_iff.mp cut
      rw [← fit, flatten_map_utf8] at inside next
      have maximal : ∀ c ∈ rest.head?, capacity < (toUtf8 first).length + (utf8 c).length := by
        intro c head
        refine next (utf8 c) ?_
        rw [← others, List.head?_map]
        exact Option.mem_map_of_mem utf8 head
      refine ⟨first, rest, rfl, inside, maximal, ?_⟩
      simp only [Except.bind, ← fit, flatten_map_utf8, finish] at converted
      split
      · rename_i counted
        rw [if_pos counted] at converted
        refine ⟨_, converted, ?_, terminate_eq_notTerminated_iff _ _⟩
        rw [terminate_eq_overflow_iff]
        exact longer_iff inside maximal
      · rename_i uncounted
        rw [if_neg uncounted] at converted
        exact converted

end LeanMiniViews.Icu
