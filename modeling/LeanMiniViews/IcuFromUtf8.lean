import LeanMiniViews.IcuSequences

/-!
`u_strFromUTF8WithSub` with a character to put in the place of what is ill-formed: wherever its
loops take over from each other, every character is kept and no buffer is left.
-/

namespace LeanMiniViews.Icu

open Unicode

/-- What was read up to `later` was written as these units. -/
structure Repaired (mark : Char) (units : List UInt16) (source later : List UInt8)
    (target reached : Target UInt16) : Prop where
  repairs : ∀ more, Repairs mark later more → Repairs mark source (units ++ more)
  written_eq : reached.written = target.written ++ units
  room_eq : reached.room + units.length = target.room
  shorter : units.length + later.length ≤ source.length

theorem Repaired.refl (mark : Char) (source : List UInt8) (target : Target UInt16) :
    Repaired mark [] source source target target :=
  ⟨fun _ repairs => repairs, (List.append_nil _).symm, Nat.add_zero _,
    Nat.le_of_eq (Nat.zero_add _)⟩

theorem Repaired.trans {mark : Char} {first second : List UInt16}
    {source middle later : List UInt8} {target between reached : Target UInt16}
    (before : Repaired mark first source middle target between)
    (after : Repaired mark second middle later between reached) :
    Repaired mark (first ++ second) source later target reached := by
  obtain ⟨repairs, written_eq, room_eq, shorter⟩ := before
  have left := after.room_eq
  have length := after.shorter
  constructor
  · intro more rest
    rw [List.append_assoc]
    exact repairs _ (after.repairs more rest)
  · rw [after.written_eq, written_eq, List.append_assoc]
  · rw [List.length_append]
    omega
  · rw [List.length_append]
    omega

/-- The character `c` is read at the start of the bytes: one of them, or the mark. -/
structure ReadAs (mark : Char) (first : UInt8) (rest later : List UInt8) (c : Char) : Prop where
  read : readUTF8 (some mark.toNat) first rest = .ok (c.toNat, later)
  repairs : ∀ more, Repairs mark later more → Repairs mark (first :: rest) (utf16 c ++ more)
  shorter : (utf16 c).length + later.length ≤ rest.length + 1
  bytes : rest.length ≤ later.length + 3
  short : ¬ (inlineNext first rest = none ∧ first.toNat ≥ 0xf0) →
    c.toNat ≤ 0xffff ∧ rest.length ≤ later.length + 2

theorem repairs_passedOver {mark : Char} {rest later : List UInt8} {units : List UInt16}
    (passes : PassesOver rest later) (repairs : Repairs mark later units) :
    Repairs mark rest units := by
  obtain ⟨skipped, rfl, -, trail⟩ := passes
  induction skipped with
  | nil => exact repairs
  | cons byte skipped ih =>
      obtain ⟨here, there⟩ := List.forall_mem_cons.mp trail
      exact .dropped byte (not_startsCharacter_of_trail here _) (ih there)

theorem exists_readAs {mark : Char} (small : mark.toNat ≤ 0xffff) (first : UInt8)
    (rest : List UInt8) : ∃ later c, ReadAs mark first rest later c := by
  by_cases start : StartsCharacter (first :: rest)
  · obtain ⟨c, later, same⟩ := start
    obtain ⟨lead, tail, starts⟩ := exists_starts (some mark.toNat) c
    rw [starts.utf8_eq, List.cons_append] at same
    obtain ⟨rfl, rfl⟩ := List.cons.inj same
    have units := length_utf16_le c
    have bytes := length_utf8 c
    have inline := starts.inline later
    have length : (utf8 c).length = tail.length + 1 := by
      rw [starts.utf8_eq, List.length_cons]
    have total := @List.length_append _ tail later
    refine ⟨later, c, starts.read later, ?_, by omega, ?_, ?_⟩
    · intro more repairs
      rw [← List.cons_append, ← starts.utf8_eq]
      exact .character c repairs
    · repeat' split at bytes
      all_goals omega
    · intro short
      have small : c.toNat ≤ 0xffff := by
        by_contra large
        rw [if_neg large] at inline
        exact short ⟨inline, starts.long (by omega)⟩
      rw [if_pos small] at bytes
      refine ⟨small, ?_⟩
      repeat' split at bytes
      all_goals omega
  · obtain ⟨inline, later, read, passes⟩ := @readUTF8_of_not_starts mark.toNat _ _ start
    have unit : (utf16 mark).length = 1 := by
      rw [length_utf16, if_pos (by omega)]
    have length : rest.length ≤ later.length + 2 ∧ later.length ≤ rest.length := by
      obtain ⟨skipped, rfl, few, -⟩ := passes
      rw [List.length_append]
      omega
    refine ⟨later, mark, read, ?_, by omega, by omega, fun _ => ⟨small, length.1⟩⟩
    intro more repairs
    exact .replaced first start (repairs_passedOver passes repairs)

theorem ReadAs.put {mark c : Char} {first : UInt8} {rest later : List UInt8}
    {target : Target UInt16} (readAs : ReadAs mark first rest later c)
    (room : (utf16 c).length ≤ target.room) :
    ∃ reached, target.put (appendUTF16 c.toNat) = .ok reached ∧
      Repaired mark (utf16 c) (first :: rest) later target reached := by
  rw [appendUTF16_eq, Target.put, if_pos room]
  exact ⟨_, rfl, readAs.repairs, rfl, Nat.sub_add_cancel room, readAs.shorter⟩

/-! The loops. -/

def Converted (mark : Char) (source : List UInt8) (target : Target UInt16)
    (result : Except Failure (List UInt8 × Target UInt16)) : Prop :=
  ∃ units later reached, result = .ok (later, reached) ∧
    Repaired mark units source later target reached

theorem Converted.refl (mark : Char) (source : List UInt8) (target : Target UInt16) :
    Converted mark source target (.ok (source, target)) :=
  ⟨[], source, target, rfl, .refl mark source target⟩

theorem Repaired.converted {mark : Char} {units : List UInt16} {source middle : List UInt8}
    {target between : Target UInt16} {result : Except Failure (List UInt8 × Target UInt16)}
    (repaired : Repaired mark units source middle target between)
    (converted : Converted mark middle between result) : Converted mark source target result := by
  obtain ⟨more, later, reached, result_eq, after⟩ := converted
  exact ⟨units ++ more, later, reached, result_eq, repaired.trans after⟩

theorem fromUnchecked_converted {mark : Char} (small : mark.toNat ≤ 0xffff) {count : Nat}
    {source : List UInt8} {target : Target UInt16} (bytes : 3 * count ≤ source.length)
    (room : count ≤ target.room) :
    Converted mark source target (fromUTF8Unchecked (some mark.toNat) count source target) := by
  induction count using Nat.strongRecOn generalizing source target with
  | ind count ih =>
      cases count with
      | zero =>
          rw [fromUTF8Unchecked]
          exact .refl mark source target
      | succ count =>
          cases source with
          | nil =>
              rw [List.length_nil] at bytes
              omega
          | cons first rest =>
              obtain ⟨later, c, readAs⟩ := exists_readAs small first rest
              have read := readAs.read
              have unitCount := length_utf16 c
              have unitBounds := length_utf16_bounds c
              have doubled : ((inlineNext first rest).isNone &&
                  (first.toNat ≥ 0xf0 || (some mark.toNat).any fun c => c > 0xffff)) = true ↔
                  inlineNext first rest = none ∧ first.toNat ≥ 0xf0 := by
                have notLarge : ¬ mark.toNat > 0xffff := by omega
                simp [notLarge]
              rw [List.length_cons] at bytes
              rw [fromUTF8Unchecked.eq_def]
              simp only [doubled, read, bind, Except.bind]
              by_cases long : inlineNext first rest = none ∧ first.toNat ≥ 0xf0
              · rw [if_pos long]
                cases count with
                | zero => exact .refl _ _ _
                | succ count =>
                    have length := readAs.bytes
                    obtain ⟨reached, put, repaired⟩ :=
                      readAs.put (show (utf16 c).length ≤ target.room by omega)
                    have left := repaired.room_eq
                    simp only [put]
                    exact repaired.converted (ih count (by omega) (by omega) (by omega))
              · obtain ⟨single, length⟩ := readAs.short long
                rw [if_pos (by omega)] at unitCount
                obtain ⟨reached, put, repaired⟩ :=
                  readAs.put (show (utf16 c).length ≤ target.room by omega)
                have left := repaired.room_eq
                rw [if_neg long]
                simp only [put]
                exact repaired.converted (ih count (by omega) (by omega) (by omega))

theorem fromFaster_converted {mark : Char} (small : mark.toNat ≤ 0xffff) (rounds : Nat)
    (source : List UInt8) (target : Target UInt16) :
    Converted mark source target (fromUTF8Faster (some mark.toNat) rounds source target) := by
  induction rounds generalizing source target with
  | zero => exact .refl mark source target
  | succ rounds ih =>
      rw [fromUTF8Faster]
      split
      · exact .refl mark source target
      · obtain ⟨units, later, reached, result, repaired⟩ :=
          @fromUnchecked_converted mark small (min target.room (source.length / 3)) source target
            (by omega) (Nat.min_le_left _ _)
        rw [result]
        exact repaired.converted (ih later reached)

theorem put_pair {Unit : Type} {target reached : Target Unit} {first second : Unit}
    (put : target.put [first, second] = .ok reached) :
    ∃ between, target.put [first] = .ok between ∧ between.room > 0 ∧
      between.put [second] = .ok reached := by
  rw [Target.put] at put
  split at put
  · rename_i room
    have two : 2 ≤ target.room := room
    refine ⟨⟨target.written ++ [first], target.room - 1⟩, ?_, Nat.sub_pos_of_lt two, ?_⟩
    · exact if_pos (Nat.le_of_succ_le two)
    · have more : [second].length ≤ target.room - 1 := Nat.le_sub_of_add_le two
      rw [← put, Target.put, if_pos more, List.append_assoc]
      rfl
  · cases put

/-- With a unit of room for each byte the second loop reads on to the end. -/
theorem fromChecked_repaired {mark : Char} (small : mark.toNat ≤ 0xffff) {rounds : Nat}
    {source : List UInt8} {target : Target UInt16} (enough : source.length ≤ rounds)
    (room : source.length ≤ target.room) :
    ∃ units reached, Repaired mark units source [] target reached ∧
      fromUTF8Checked (some mark.toNat) rounds source target = .ok ⟨[], reached, 0⟩ := by
  induction rounds generalizing source target with
  | zero =>
      obtain rfl := List.length_eq_zero_iff.mp (Nat.le_zero.mp enough)
      exact ⟨[], target, .refl mark [] target, rfl⟩
  | succ rounds ih =>
      cases source with
      | nil => exact ⟨[], target, .refl mark [] target, rfl⟩
      | cons first rest =>
          obtain ⟨later, c, readAs⟩ := exists_readAs small first rest
          have shorter := readAs.shorter
          have unitBounds := length_utf16_bounds c
          rw [List.length_cons] at enough room
          obtain ⟨reached, put, repaired⟩ :=
            readAs.put (show (utf16 c).length ≤ target.room by omega)
          have left := repaired.room_eq
          obtain ⟨units, last, after, result⟩ := ih (show later.length ≤ rounds by omega)
            (show later.length ≤ reached.room by omega)
          refine ⟨utf16 c ++ units, last, repaired.trans after, ?_⟩
          rw [fromUTF8Checked, if_neg (by omega)]
          simp only [readAs.read, bind, Except.bind]
          by_cases single : c.toNat ≤ 0xffff
          · rw [appendUTF16, if_pos single] at put
            rw [if_pos single, put]
            exact result
          · rw [appendUTF16, if_neg single] at put
            obtain ⟨between, led, more, trailed⟩ := put_pair put
            rw [if_neg single]
            simp only [led, more, if_true, trailed]
            exact result

theorem legalSubchar_char (mark : Char) : legalSubchar (some mark.toNat) = true := by
  have valid := toNat_valid mark
  have field : mark.toNat &&& 0xfffff800 = mark.toNat / 2 ^ 11 % 2 ^ 21 * 2 ^ 11 :=
    Bits.and_field mark.toNat 21 11
  have notSurrogate : isSurrogate mark.toNat = false := by
    rw [isSurrogate, field, beq_eq_false_iff_ne]
    omega
  rw [legalSubchar, Option.all_some, notSurrogate, Bool.not_false, Bool.and_true,
    decide_eq_true_iff]
  omega

theorem strFromUTF8WithSub_repairs {mark : Char} {capacity : Nat} {source : List UInt8}
    (small : mark.toNat ≤ 0xffff) (room : source.length ≤ capacity)
    (counted : source.length < 2 ^ 31) :
    ∃ units, Repairs mark source units ∧ units.length ≤ source.length ∧
      strFromUTF8WithSub (some mark.toNat) capacity source =
        .ok ⟨units, units.length, terminate capacity units.length⟩ := by
  have legal := legalSubchar_char mark
  obtain ⟨first, middle, between, faster, before⟩ :=
    fromFaster_converted small source.length source ⟨[], capacity⟩
  have left : between.room + first.length = capacity := before.room_eq
  have shorter := before.shorter
  obtain ⟨second, reached, after, checked⟩ := fromChecked_repaired small (Nat.le_refl middle.length)
    (show middle.length ≤ between.room by omega)
  have whole := before.trans after
  have written : reached.written = first ++ second := whole.written_eq
  refine ⟨first ++ second, ?_, whole.shorter, ?_⟩
  · have repairs := whole.repairs [] .nil
    rwa [List.append_nil] at repairs
  · rw [strFromUTF8WithSub, if_pos legal]
    simp only [faster, bind, Except.bind, checked, List.length_nil, fromUTF8Preflight, written,
      Nat.zero_add]
    have total := whole.shorter
    exact if_pos (by omega)

end LeanMiniViews.Icu
