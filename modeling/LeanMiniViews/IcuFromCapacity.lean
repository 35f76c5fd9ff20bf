import LeanMiniViews.IcuReader

/-!
`u_strFromUTF8WithSub` into a buffer of any size, with any character to put in the place of what
is ill-formed, or none: its three loops agree with the plain reader.
-/

namespace LeanMiniViews.Icu

open Unicode ChunkReader

theorem length_appendUTF16 (c : Nat) : (appendUTF16 c).length = length16 c := by
  unfold appendUTF16 length16
  split
  · rfl
  · rfl

theorem readUTF8_substitute (subchar : Option Nat) {first : UInt8} {rest : List UInt8}
    (noStart : ¬ StartsCharacter (first :: rest)) :
    inlineNext first rest = none ∧ ∃ later, PassesOver rest later ∧
      readUTF8 subchar first rest = substitute subchar later := by
  have inline : inlineNext first rest = none := by
    rw [Option.eq_none_iff_forall_ne_some]
    intro found inline
    exact noStart (startsCharacter_of_inlineNext inline)
  rcases takesCharacter first rest with starts | ⟨later, body, passes⟩
  · exact absurd starts noStart
  · refine ⟨inline, later, passes, ?_⟩
    simp only [readUTF8, inline, body]

/-- What the loop that looks for no limit relies on: how far one code point reaches. -/
theorem readUTF8_ok {mark : Option Char} {first : UInt8} {rest later : List UInt8} {c : Nat}
    (read : readUTF8 (mark.map Char.toNat) first rest = .ok (c, later)) :
    later.length ≤ rest.length ∧ rest.length ≤ later.length + 3 ∧
      (((inlineNext first rest).isNone &&
        (first.toNat ≥ 0xf0 || (mark.map Char.toNat).any fun c => c > 0xffff)) = false →
          c ≤ 0xffff ∧ rest.length ≤ later.length + 2) := by
  by_cases start : StartsCharacter (first :: rest)
  · obtain ⟨char, after, same⟩ := start
    obtain ⟨lead, tail, starts⟩ := exists_starts (mark.map Char.toNat) char
    rw [starts.utf8_eq, List.cons_append] at same
    obtain ⟨rfl, rfl⟩ := List.cons.inj same
    rw [starts.read after] at read
    obtain ⟨rfl, rfl⟩ : char.toNat = c ∧ after = later := by simpa using read
    have bytes := length_utf8 char
    have inline := starts.inline after
    have total := @List.length_append _ tail after
    rw [starts.utf8_eq, List.length_cons] at bytes
    refine ⟨by omega, ?_, ?_⟩
    · repeat' split at bytes
      all_goals omega
    · intro short
      have small : char.toNat ≤ 0xffff := by
        by_contra large
        rw [if_neg large] at inline
        have long := starts.long (by omega)
        simp [inline, long] at short
      rw [if_pos small] at bytes
      refine ⟨small, ?_⟩
      repeat' split at bytes
      all_goals omega
  · obtain ⟨inline, after, ⟨skipped, rfl, few, -⟩, substituted⟩ :=
      readUTF8_substitute (mark.map Char.toNat) start
    rw [substituted] at read
    cases mark with
    | none => cases read
    | some mark =>
        obtain ⟨rfl, rfl⟩ : mark.toNat = c ∧ after = later := by simpa [substitute] using read
        rw [List.length_append]
        refine ⟨by omega, by omega, fun short => ⟨?_, by omega⟩⟩
        simp only [inline, Option.isNone_none, Bool.true_and, Option.map_some, Option.any_some,
          Bool.or_eq_false_iff, decide_eq_false_iff_not] at short
        omega

/-- What becomes of the bytes as a whole. -/
def Meant (mark : Option Char) (source : List UInt8) (result : Except Failure (List UInt16)) :
    Prop :=
  match mark with
  | some mark => ∃ units, result = .ok units ∧ Repairs mark source units
  | none =>
      (∀ characters, source = toUtf8 characters → result = .ok (toUtf16 characters)) ∧
        (¬ WellFormed8 source → result = .error .invalidCharFound)

theorem toUtf8_eq_cases {characters : List Char} {first : UInt8} {rest : List UInt8}
    (whole : first :: rest = toUtf8 characters) :
    ∃ c more, characters = c :: more ∧ first :: rest = utf8 c ++ toUtf8 more := by
  cases characters with
  | nil => cases whole
  | cons c more =>
      rw [toUtf8, List.flatMap_cons] at whole
      exact ⟨c, more, rfl, whole⟩

theorem Meant.nil (mark : Option Char) : Meant mark [] (.ok []) := by
  cases mark with
  | some mark => exact ⟨[], rfl, .nil⟩
  | none =>
      constructor
      · intro characters whole
        cases characters with
        | nil => rfl
        | cons c more =>
            rw [toUtf8, List.flatMap_cons] at whole
            exact absurd (List.append_eq_nil_iff.mp whole.symm).1 (utf8_ne_nil c)
      · intro illFormed
        exact absurd ⟨[], rfl⟩ illFormed

theorem Meant.character {mark : Option Char} {later : List UInt8}
    {result : Except Failure (List UInt16)} (c : Char) (meant : Meant mark later result) :
    Meant mark (utf8 c ++ later) (result.map (utf16 c ++ ·)) := by
  cases mark with
  | some mark =>
      obtain ⟨units, rfl, repairs⟩ := meant
      exact ⟨utf16 c ++ units, rfl, .character c repairs⟩
  | none =>
      obtain ⟨wellFormed, illFormed⟩ := meant
      constructor
      · intro characters whole
        cases characters with
        | nil => exact absurd (List.append_eq_nil_iff.mp whole).1 (utf8_ne_nil c)
        | cons other more =>
            rw [toUtf8, List.flatMap_cons] at whole
            obtain ⟨rfl, rfl⟩ := utf8_append_inj whole
            rw [wellFormed more rfl]
            rfl
      · intro notWhole
        have notLater : ¬ WellFormed8 later := by
          rintro ⟨characters, rfl⟩
          exact notWhole ⟨c :: characters, rfl⟩
        rw [illFormed notLater]
        rfl

theorem map_flatten_cons {To : Type} (chunk : List To)
    (result : Except Failure (List (List To))) :
    (result.map (chunk :: ·)).map List.flatten = (result.map List.flatten).map (chunk ++ ·) := by
  cases result with
  | ok chunks => rfl
  | error failure => rfl

theorem exists_whole_reader8 (mark : Option Char) (source : List UInt8) :
    ∃ result, Whole (reader8 (mark.map Char.toNat)) source result ∧
      Meant mark source (result.map List.flatten) := by
  induction length : source.length using Nat.strongRecOn generalizing source with
  | ind count ih =>
      cases source with
      | nil => exact ⟨.ok [], .ended rfl, .nil mark⟩
      | cons first rest =>
          rw [List.length_cons] at length
          by_cases start : StartsCharacter (first :: rest)
          · obtain ⟨c, later, same⟩ := start
            obtain ⟨lead, tail, starts⟩ := exists_starts (mark.map Char.toNat) c
            have parts := same
            rw [starts.utf8_eq, List.cons_append] at parts
            obtain ⟨rfl, rfl⟩ := List.cons.inj parts
            rw [List.length_append] at length
            obtain ⟨result, whole, meant⟩ := ih later.length (by omega) later rfl
            have read : reader8 (mark.map Char.toNat) (first :: (tail ++ later)) =
                some (.ok (utf16 c, later)) := by
              rw [reader8, reader, starts.read later, ← appendUTF16_eq]
              rfl
            refine ⟨_, .more read whole, ?_⟩
            rw [map_flatten_cons, same]
            exact meant.character c
          · obtain ⟨-, later, passes, substituted⟩ :=
              readUTF8_substitute (mark.map Char.toNat) start
            cases mark with
            | none =>
                have read : reader8 none (first :: rest) = some (.error .invalidCharFound) := by
                  rw [reader8, reader]
                  exact congrArg (fun found => some (Except.map _ found)) substituted
                refine ⟨_, .failed read, ?_, fun _ => rfl⟩
                intro characters whole
                obtain ⟨c, more, -, same⟩ := toUtf8_eq_cases whole
                exact absurd ⟨c, _, same⟩ start
            | some mark =>
                have fewer : later.length ≤ rest.length := by
                  obtain ⟨skipped, rfl, -, -⟩ := passes
                  rw [List.length_append]
                  omega
                obtain ⟨result, whole, units, ended, repairs⟩ :=
                  ih later.length (by omega) later rfl
                have read : reader8 (some mark.toNat) (first :: rest) =
                    some (.ok (utf16 mark, later)) := by
                  rw [reader8, reader, ← appendUTF16_eq]
                  exact congrArg (fun found => some (Except.map _ found)) substituted
                refine ⟨_, .more read whole, utf16 mark ++ units, ?_, ?_⟩
                · rw [map_flatten_cons, ended]
                  rfl
                · exact .replaced first start (repairs_passedOver passes repairs)

theorem fromUTF8Unchecked_advances {mark : Option Char} {count : Nat} {source : List UInt8}
    {target : Target UInt16} (bytes : 3 * count ≤ source.length) (room : count ≤ target.room) :
    Advances (reader8 (mark.map Char.toNat)) source target
      (fromUTF8Unchecked (mark.map Char.toNat) count source target) := by
  induction count using Nat.strongRecOn generalizing source target with
  | ind count ih =>
      cases count with
      | zero =>
          rw [fromUTF8Unchecked]
          exact .refl source target
      | succ count =>
          cases source with
          | nil =>
              rw [List.length_nil] at bytes
              omega
          | cons first rest =>
              rw [List.length_cons] at bytes
              rw [fromUTF8Unchecked.eq_def]
              simp only
              by_cases twice : ((inlineNext first rest).isNone && (first.toNat ≥ 0xf0 ||
                  (mark.map Char.toNat).any fun c => c > 0xffff)) = true
              · rw [if_pos twice]
                cases count with
                | zero => exact .refl _ _
                | succ count =>
                    refine advances_read rfl fun c later read => ?_
                    obtain ⟨-, length, -⟩ := readUTF8_ok read
                    have units := length_appendUTF16 c
                    unfold length16 at units
                    split at units
                    · exact ⟨by omega, fun reached left =>
                        ih count (by omega) (by omega) (by omega)⟩
                    · exact ⟨by omega, fun reached left =>
                        ih count (by omega) (by omega) (by omega)⟩
              · rw [if_neg twice]
                refine advances_read rfl fun c later read => ?_
                obtain ⟨-, -, short⟩ := readUTF8_ok read
                obtain ⟨small, length⟩ := short (Bool.eq_false_iff.mpr twice)
                have units := length_appendUTF16 c
                rw [length16, if_pos small] at units
                exact ⟨by omega, fun reached left => ih count (by omega) (by omega) (by omega)⟩

theorem fromUTF8Faster_advances (mark : Option Char) (rounds : Nat) (source : List UInt8)
    (target : Target UInt16) :
    Advances (reader8 (mark.map Char.toNat)) source target
      (fromUTF8Faster (mark.map Char.toNat) rounds source target) := by
  induction rounds generalizing source target with
  | zero => exact .refl source target
  | succ rounds ih =>
      rw [fromUTF8Faster]
      split
      · exact .refl source target
      · have advances := @fromUTF8Unchecked_advances mark (min target.room (source.length / 3))
          source target (by omega) (Nat.min_le_left _ _)
        generalize fromUTF8Unchecked (mark.map Char.toNat) (min target.room (source.length / 3))
          source target = result at advances ⊢
        cases result with
        | ok reached =>
            obtain ⟨chunks, wrote⟩ := advances
            exact wrote.advances (ih reached.1 reached.2)
        | error failure => exact advances

theorem fromUTF8Preflight_whole {mark : Option Char} {rounds : Nat} {source : List UInt8}
    {result : Except Failure (List (List UInt16))} (enough : source.length ≤ rounds)
    (whole : Whole (reader8 (mark.map Char.toNat)) source result) (reqLength : Nat) :
    fromUTF8Preflight (mark.map Char.toNat) rounds source reqLength =
      result.map fun chunks => reqLength + chunks.flatten.length := by
  induction whole generalizing rounds reqLength with
  | ended atEnd =>
      obtain rfl := reader_ended atEnd
      cases rounds with
      | zero => rfl
      | succ rounds => rfl
  | failed failed =>
      obtain ⟨first, rest, rfl, read⟩ := reader_failed failed
      cases rounds with
      | zero => cases enough
      | succ rounds =>
          rw [fromUTF8Preflight, read]
          rfl
  | @more source middle chunk result more _ ih =>
      obtain ⟨first, rest, c, rfl, rfl, read⟩ := reader_more more
      obtain ⟨fewer, -, -⟩ := readUTF8_ok read
      rw [List.length_cons] at enough
      cases rounds with
      | zero => cases enough
      | succ rounds =>
          rw [fromUTF8Preflight, read]
          simp only [bind, Except.bind]
          rw [ih (by omega), ← length_appendUTF16]
          cases result with
          | error failure => rfl
          | ok chunks =>
              simp only [Except.map, List.flatten_cons, List.length_append, Nat.add_assoc]

/-- The loop that looks for the limit, and the count of what it leaves. -/
def fromUTF8Rest (subchar : Option Nat) (rounds : Nat) (source : List UInt8)
    (target : Target UInt16) : Except Failure (List UInt16 × Nat) := do
  let checked ← fromUTF8Checked subchar rounds source target
  let reqLength ← fromUTF8Preflight subchar checked.source.length checked.source checked.reqLength
  return (checked.target.written, reqLength + checked.target.written.length)

theorem fromUTF8Rest_stopped {subchar : Option Nat} {rounds : Nat} {source : List UInt8}
    {target : Target UInt16} {checked : Checked UInt8 UInt16}
    (stopped : fromUTF8Checked subchar rounds source target = .ok checked) :
    fromUTF8Rest subchar rounds source target =
      (fromUTF8Preflight subchar checked.source.length checked.source checked.reqLength).map
        fun reqLength => (checked.target.written, reqLength + checked.target.written.length) := by
  rw [fromUTF8Rest, stopped]
  simp only [bind, Except.bind, pure, Except.pure]
  cases fromUTF8Preflight subchar checked.source.length checked.source checked.reqLength with
  | ok reqLength => rfl
  | error failure => rfl

theorem fromUTF8Rest_nil (subchar : Option Nat) (rounds : Nat) (target : Target UInt16) :
    fromUTF8Rest subchar rounds [] target = .ok (target.written, target.written.length) := by
  have stopped : fromUTF8Checked subchar rounds [] target = .ok ⟨[], target, 0⟩ := by
    cases rounds with
    | zero => rfl
    | succ rounds => rfl
  rw [fromUTF8Rest_stopped stopped]
  simp [fromUTF8Preflight, Except.map]

theorem fromUTF8Checked_full (subchar : Option Nat) (rounds : Nat) (first : UInt8)
    (rest : List UInt8) {target : Target UInt16} (full : target.room = 0) :
    fromUTF8Checked subchar (rounds + 1) (first :: rest) target =
      .ok ⟨first :: rest, target, 0⟩ := by
  rw [fromUTF8Checked, if_pos full]

theorem fromUTF8Checked_fits {subchar : Option Nat} (rounds : Nat) {first : UInt8}
    {rest later : List UInt8} {c : Nat} {target : Target UInt16}
    (read : readUTF8 subchar first rest = .ok (c, later))
    (room : (appendUTF16 c).length ≤ target.room) :
    fromUTF8Checked subchar (rounds + 1) (first :: rest) target =
      fromUTF8Checked subchar rounds later
        ⟨target.written ++ appendUTF16 c, target.room - (appendUTF16 c).length⟩ := by
  by_cases small : c ≤ 0xffff
  · rw [appendUTF16, if_pos small] at room ⊢
    have one : 1 ≤ target.room := room
    have put : target.put [UInt16.ofNat c] =
        .ok ⟨target.written ++ [UInt16.ofNat c], target.room - 1⟩ := if_pos room
    rw [fromUTF8Checked, if_neg (by omega)]
    simp only [read, bind, Except.bind, if_pos small, put, List.length_singleton]
  · rw [appendUTF16, if_neg small] at room ⊢
    have two : 2 ≤ target.room := room
    have put : target.put [lead c, trail c] =
        .ok ⟨target.written ++ [lead c, trail c], target.room - 2⟩ := if_pos room
    obtain ⟨between, led, more, trailed⟩ := put_pair put
    rw [fromUTF8Checked, if_neg (by omega)]
    simp only [read, bind, Except.bind, if_neg small, led, more, if_true, trailed]
    rfl

/-- The first unit of a pair goes into the last place. -/
theorem fromUTF8Checked_halved {subchar : Option Nat} (rounds : Nat) {first : UInt8}
    {rest later : List UInt8} {c : Nat} {target : Target UInt16}
    (read : readUTF8 subchar first rest = .ok (c, later)) (large : ¬ c ≤ 0xffff)
    (one : target.room = 1) :
    fromUTF8Checked subchar (rounds + 1) (first :: rest) target =
      .ok ⟨later, ⟨target.written ++ [lead c], 0⟩, 1⟩ := by
  have put : target.put [lead c] = .ok ⟨target.written ++ [lead c], 0⟩ := by
    rw [Target.put, List.length_singleton, one, if_pos (Nat.le_refl 1)]
  rw [fromUTF8Checked, if_neg (by omega)]
  simp only [read, bind, Except.bind, if_neg large, put, Nat.lt_irrefl, if_false, gt_iff_lt,
    pure, Except.pure]

theorem fromUTF8Rest_whole {mark : Option Char} {rounds : Nat} {source : List UInt8}
    {target : Target UInt16} {result : Except Failure (List (List UInt16))}
    (enough : source.length ≤ rounds)
    (whole : Whole (reader8 (mark.map Char.toNat)) source result) :
    fromUTF8Rest (mark.map Char.toNat) rounds source target =
      result.map fun chunks => (target.written ++ chunks.flatten.take target.room,
        target.written.length + chunks.flatten.length) := by
  induction whole generalizing rounds target with
  | ended atEnd =>
      obtain rfl := reader_ended atEnd
      rw [fromUTF8Rest_nil]
      simp [Except.map]
  | @failed source failure failed =>
      have counted := fromUTF8Preflight_whole (Nat.le_refl source.length) (.failed failed) 0
      obtain ⟨first, rest, rfl, read⟩ := reader_failed failed
      cases rounds with
      | zero => cases enough
      | succ rounds =>
          by_cases full : target.room = 0
          · rw [fromUTF8Rest_stopped (fromUTF8Checked_full _ rounds first rest full), counted]
            rfl
          · rw [fromUTF8Rest, fromUTF8Checked, if_neg full, read]
            rfl
  | @more source middle chunk result more wholeRest ih =>
      have counted := fromUTF8Preflight_whole (Nat.le_refl source.length) (.more more wholeRest) 0
      obtain ⟨first, rest, c, rfl, rfl, read⟩ := reader_more more
      obtain ⟨fewer, -, -⟩ := readUTF8_ok read
      have units := length_appendUTF16 c
      rw [List.length_cons] at enough
      cases rounds with
      | zero => cases enough
      | succ rounds =>
          by_cases full : target.room = 0
          · rw [fromUTF8Rest_stopped (fromUTF8Checked_full _ rounds first rest full), counted]
            cases result with
            | error failure => rfl
            | ok chunks =>
                simp [Except.map, full, Nat.add_comm]
          by_cases room : (appendUTF16 c).length ≤ target.room
          · rw [fromUTF8Rest, fromUTF8Checked_fits rounds read room, ← fromUTF8Rest,
              ih (by omega)]
            cases result with
            | error failure => rfl
            | ok chunks =>
                simp only [Except.map, List.flatten_cons, List.append_assoc,
                  List.length_append, Nat.add_assoc, List.take_append, List.take_of_length_le room]
          · have large : ¬ c ≤ 0xffff := by
              intro small
              rw [length16, if_pos small] at units
              omega
            rw [length16, if_neg large] at units
            have one : target.room = 1 := by omega
            rw [fromUTF8Rest_stopped (fromUTF8Checked_halved rounds read large one),
              fromUTF8Preflight_whole (Nat.le_refl middle.length) wholeRest]
            cases result with
            | error failure => rfl
            | ok chunks =>
                rw [appendUTF16, if_neg large]
                simp only [Except.map, one, List.flatten_cons, List.length_append,
                  List.length_cons, List.length_nil, List.cons_append, List.take_succ_cons,
                  List.take_zero, Except.ok.injEq, Prod.mk.injEq, true_and]
                omega

theorem strFromUTF8WithSub_whole {mark : Option Char} {capacity : Nat} {source : List UInt8}
    {result : Except Failure (List (List UInt16))}
    (whole : Whole (reader8 (mark.map Char.toNat)) source result) :
    strFromUTF8WithSub (mark.map Char.toNat) capacity source =
      result.bind fun chunks =>
        finish capacity (chunks.flatten.take capacity) chunks.flatten.length := by
  have advances := fromUTF8Faster_advances mark source.length source ⟨[], capacity⟩
  have split : strFromUTF8WithSub (mark.map Char.toNat) capacity source =
      fromUTF8Faster (mark.map Char.toNat) source.length source ⟨[], capacity⟩ >>= fun faster =>
        fromUTF8Rest (mark.map Char.toNat) faster.1.length faster.1 faster.2 >>= fun ended =>
          finish capacity ended.1 ended.2 := by
    rw [strFromUTF8WithSub, if_pos (legalSubchar_mark mark)]
    simp only [fromUTF8Rest, bind_assoc, pure_bind]
  rw [split]
  cases faster : fromUTF8Faster (mark.map Char.toNat) source.length source ⟨[], capacity⟩ with
  | error failure =>
      rw [faster] at advances
      rw [whole.unique advances]
      rfl
  | ok reached =>
      rw [faster] at advances
      obtain ⟨first, wrote⟩ := advances
      obtain ⟨rest, wholeRest, -⟩ := exists_whole_reader8 mark reached.1
      rw [whole.unique (wrote.reads.whole wholeRest)]
      simp only [bind, Except.bind]
      rw [fromUTF8Rest_whole (Nat.le_refl _) wholeRest]
      have written : reached.2.written = first.flatten := wrote.written_eq
      have room : reached.2.room + first.flatten.length = capacity := wrote.room_eq
      cases rest with
      | error failure => rfl
      | ok chunks =>
          have fits : first.flatten.length ≤ capacity := by omega
          simp only [Except.map]
          rw [written, List.flatten_append, List.length_append, List.take_append,
            List.take_of_length_le fits, ← room, Nat.add_sub_cancel]

/-- The units that fit, be the last one half of a pair, and the length of all of them. The capacity
decides on the code alone. -/
theorem strFromUTF8WithSub_capacity (mark : Option Char) (source : List UInt8) :
    ∃ result : Except Failure (List UInt16), Meant mark source result ∧
      ∀ capacity,
        match result with
        | .ok units =>
            if units.length < 2147483648 then
              ∃ errorCode, strFromUTF8WithSub (mark.map Char.toNat) capacity source =
                  .ok ⟨units.take capacity, units.length, errorCode⟩ ∧
                (errorCode = .bufferOverflowError ↔ capacity < units.length) ∧
                (errorCode = .stringNotTerminatedWarning ↔ units.length = capacity)
            else strFromUTF8WithSub (mark.map Char.toNat) capacity source = .error .overflow
        | .error failure =>
            strFromUTF8WithSub (mark.map Char.toNat) capacity source = .error failure := by
  obtain ⟨result, whole, meant⟩ := exists_whole_reader8 mark source
  refine ⟨result.map List.flatten, meant, fun capacity => ?_⟩
  have converted := @strFromUTF8WithSub_whole mark capacity source result whole
  cases result with
  | ok chunks =>
      simp only [Except.bind, finish] at converted
      simp only [Except.map]
      split
      · rename_i counted
        rw [if_pos counted] at converted
        exact ⟨_, converted, terminate_eq_overflow_iff _ _, terminate_eq_notTerminated_iff _ _⟩
      · rename_i uncounted
        rw [if_neg uncounted] at converted
        exact converted
  | error failure => exact converted

end LeanMiniViews.Icu
