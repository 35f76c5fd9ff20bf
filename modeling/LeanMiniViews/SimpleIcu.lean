import LeanMiniViews.CheckedInt
import LeanMiniViews.IcuFromUtf8
import LeanMiniViews.IcuToUtf8
import LeanMiniViews.MathCore

/-!
`icux` hands a buffer of a fixed multiple of the length to ICU and does not look at the error code.
There is no result where the size of the buffer overflows or is negative, and where a call leaves
its buffer. `new` is taken to find the memory.
-/

namespace LeanMiniViews.Icux

open Unicode Icu

/-- `int32_t(length)*scale+1`, and `new` of that many. -/
def bufferSize (length : Int) (scale : Int) : Option Nat :=
  ((CheckedInt.mul length scale).bind fun scaled => CheckedInt.add scaled 1).bind fun size =>
    if size < 0 then none else some size.toNat

/-- `resultSize` is zero still where a call reports what it cannot read. -/
def stringOf {Unit : Type} (bufferSize : Nat) (result : Except Failure (Conversion Unit)) :
    Option (List Unit) :=
  match result with
  | .ok converted =>
      if converted.destLength = converted.buffer.length ∧ converted.destLength ≤ bufferSize then
        some converted.buffer
      else none
  | .error .outside => none
  | .error .overflow => none
  | .error _ => some []

def toUtf8 (utf16Str : List UInt16) : Option (List UInt8) :=
  let length := toLong utf16Str.length
  (bufferSize length 4).bind fun size =>
    stringOf size (strToUTF8 size (utf16Str.take length.toNat))

def subChar : Nat := '?'.toNat

def toUtf16 (utf8Str : List UInt8) : Option (List UInt16) :=
  let length := toLong utf8Str.length
  (bufferSize length 2).bind fun size =>
    stringOf size (strFromUTF8WithSub (some subChar) size (utf8Str.take length.toNat))

theorem bufferSize_eq {length scale : Int} (two : 2 ≤ scale) :
    bufferSize length scale =
      if 0 ≤ length ∧ length * scale < 2147483647 then some (length * scale + 1).toNat
      else none := by
  have negative (below : length < 0) : length * scale ≤ -2 := by nlinarith
  have nonneg (notBelow : 0 ≤ length) : 0 ≤ length * scale := Int.mul_nonneg notBelow (by omega)
  simp only [bufferSize, CheckedInt.mul, CheckedInt.add]
  generalize length * scale = product at negative nonneg ⊢
  by_cases fits : 0 ≤ length ∧ product < 2147483647
  · have first := nonneg fits.1
    rw [if_pos fits, CheckedInt.exact_of_inRange ⟨by omega, by omega⟩, Option.bind_some,
      CheckedInt.exact_of_inRange ⟨by omega, by omega⟩, Option.bind_some, if_neg (by omega)]
  · rw [if_neg fits]
    by_cases scaled : CheckedInt.InRange product
    · rw [CheckedInt.exact_of_inRange scaled, Option.bind_some]
      by_cases size : CheckedInt.InRange (product + 1)
      · rw [CheckedInt.exact_of_inRange size, Option.bind_some, if_pos]
        obtain ⟨-, upper⟩ := size
        omega
      · rw [CheckedInt.exact_of_not_inRange size]
        rfl
    · rw [CheckedInt.exact_of_not_inRange scaled]
      rfl

theorem bufferSize_of_nat {count scale : Nat} (two : 2 ≤ scale)
    (fits : count * scale < 2147483647) :
    bufferSize (toLong count) scale = some (count * scale + 1) := by
  have short : count < 2147483648 := by nlinarith
  have exact : toLong count = count := toLong_of_fits (by omega) (by omega)
  have product : (count : Int) * scale = (count * scale : Nat) := (Int.natCast_mul _ _).symm
  rw [exact, bufferSize_eq (by omega), product, if_pos (by omega)]
  rfl

/-! Each of the two alone. -/

/-- The UTF-8 form of what is well formed, and nothing for all else. -/
theorem toUtf8_eq (units : List UInt16) :
    toUtf8 units =
      if 0 ≤ toLong units.length ∧ toLong units.length < 2 ^ 29 then
        some (((decode (units.take (toLong units.length).toNat)).map Unicode.toUtf8).getD [])
      else none := by
  rw [toUtf8]
  generalize toLong units.length = length
  by_cases fits : 0 ≤ length ∧ length < 2 ^ 29
  · have taken := List.length_take_le length.toNat units
    rw [if_pos fits, bufferSize_eq (by omega), if_pos (by omega), Option.bind_some,
      strToUTF8_eq (by omega) (by omega)]
    cases decoded : decode (units.take length.toNat) with
    | none => rfl
    | some characters =>
        have bytes := length_toUtf8_le characters
        rw [decode_eq_some_iff] at decoded
        rw [← decoded] at bytes
        exact if_pos ⟨rfl, by simp only; omega⟩
  · rw [if_neg fits, bufferSize_eq (by omega), if_neg (by omega)]
    rfl

theorem toUtf8_toUtf16 {characters : List Char}
    (short : (Unicode.toUtf16 characters).length < 2 ^ 29) :
    toUtf8 (Unicode.toUtf16 characters) = some (Unicode.toUtf8 characters) := by
  have exact : toLong (Unicode.toUtf16 characters).length = (Unicode.toUtf16 characters).length :=
    toLong_of_fits (by omega) (by omega)
  have decoded : decode (Unicode.toUtf16 characters) = some characters :=
    decode_eq_some_iff.mpr rfl
  rw [toUtf8_eq, exact, if_pos (by omega), Int.toNat_natCast, List.take_length, decoded]
  rfl

theorem toUtf8_of_long {units : List UInt16} (long : 2 ^ 29 ≤ units.length)
    (counted : units.length < 2 ^ 31) : toUtf8 units = none := by
  have exact : toLong units.length = units.length := toLong_of_fits (by omega) (by omega)
  rw [toUtf8_eq, exact, if_neg (by omega)]

/-- Every character is kept, also of what is ill-formed. -/
theorem toUtf16_repairs {bytes : List UInt8} (short : bytes.length < 2 ^ 30) :
    ∃ units, toUtf16 bytes = some units ∧ Repairs '?' bytes units ∧ WellFormed16 units := by
  have exact : toLong bytes.length = bytes.length := toLong_of_fits (by omega) (by omega)
  obtain ⟨units, repairs, shorter, converted⟩ := @strFromUTF8WithSub_repairs '?'
    ((bytes.length : Int) * 2 + 1).toNat bytes (by decide) (by omega) (by omega)
  refine ⟨units, ?_, repairs, repairs.wellFormed16⟩
  rw [toUtf16, exact, bufferSize_eq (by omega), if_pos (by omega), Option.bind_some,
    Int.toNat_natCast, List.take_length, subChar, converted]
  exact if_pos ⟨rfl, by simp only; omega⟩

theorem toUtf16_toUtf8 {characters : List Char}
    (short : (Unicode.toUtf8 characters).length < 2 ^ 30) :
    toUtf16 (Unicode.toUtf8 characters) = some (Unicode.toUtf16 characters) := by
  obtain ⟨units, converted, repairs, -⟩ := toUtf16_repairs short
  rw [converted, repairs.eq_toUtf16]

theorem toUtf16_of_long {bytes : List UInt8} (long : 2 ^ 30 ≤ bytes.length)
    (counted : bytes.length < 2 ^ 31) : toUtf16 bytes = none := by
  have exact : toLong bytes.length = bytes.length := toLong_of_fits (by omega) (by omega)
  rw [toUtf16, exact, bufferSize_eq (by omega), if_neg (by omega)]
  rfl

/-! One after the other. -/

/-- There is a buffer for so many bytes or units, and the result has no more than it. -/
def Fits (length scale result : Nat) : Prop :=
  ∃ size, bufferSize (toLong length) scale = some size ∧ result ≤ size

theorem fits_toUtf8 {characters : List Char}
    (short : (Unicode.toUtf16 characters).length < 2 ^ 29) :
    Fits (Unicode.toUtf16 characters).length 4 (Unicode.toUtf8 characters).length := by
  have bytes := length_toUtf8_le characters
  exact ⟨_, bufferSize_of_nat (by decide) (by omega), by omega⟩

theorem fits_toUtf16 {characters : List Char}
    (short : (Unicode.toUtf8 characters).length < 2 ^ 30) :
    Fits (Unicode.toUtf8 characters).length 2 (Unicode.toUtf16 characters).length := by
  have units := length_toUtf16_le characters
  exact ⟨_, bufferSize_of_nat (by decide) (by omega), by omega⟩

theorem utf8_throughUtf16 {bytes : List UInt8} (wellFormed : WellFormed8 bytes)
    (short : bytes.length < 2 ^ 29) :
    ∃ units, toUtf16 bytes = some units ∧ toUtf8 units = some bytes ∧
      Fits bytes.length 2 units.length ∧ Fits units.length 4 bytes.length := by
  obtain ⟨characters, rfl⟩ := wellFormed
  have units := length_toUtf16_le characters
  refine ⟨Unicode.toUtf16 characters, ?_, ?_, ?_, ?_⟩
  · exact toUtf16_toUtf8 (by omega)
  · exact toUtf8_toUtf16 (by omega)
  · exact fits_toUtf16 (by omega)
  · exact fits_toUtf8 (by omega)

/-- The size for the way back overflows from 2^30 bytes on. -/
theorem utf16_throughUtf8 {units : List UInt16} (wellFormed : WellFormed16 units)
    (short : units.length < 2 ^ 29) :
    ∃ bytes, toUtf8 units = some bytes ∧ Fits units.length 4 bytes.length ∧
      (toUtf16 bytes = some units ↔ bytes.length < 2 ^ 30) ∧
      (bytes.length < 2 ^ 30 → Fits bytes.length 2 units.length) := by
  obtain ⟨characters, rfl⟩ := wellFormed
  have bytes := length_toUtf8_le characters
  refine ⟨Unicode.toUtf8 characters, toUtf8_toUtf16 short, fits_toUtf8 short, ?_, fits_toUtf16⟩
  constructor
  · intro returned
    by_contra long
    rw [toUtf16_of_long (by omega) (by omega)] at returned
    cases returned
  · exact toUtf16_toUtf8

theorem conversions_lossless :
    (∀ bytes, WellFormed8 bytes → bytes.length < 2 ^ 29 →
      ∃ units, toUtf16 bytes = some units ∧ toUtf8 units = some bytes ∧
        Fits bytes.length 2 units.length ∧ Fits units.length 4 bytes.length) ∧
    ∀ units, WellFormed16 units → units.length < 2 ^ 29 →
      ∃ bytes, toUtf8 units = some bytes ∧ Fits units.length 4 bytes.length ∧
        (toUtf16 bytes = some units ↔ bytes.length < 2 ^ 30) ∧
        (bytes.length < 2 ^ 30 → Fits bytes.length 2 units.length) :=
  ⟨fun _ => utf8_throughUtf16, fun _ => utf16_throughUtf8⟩

theorem conversions_lossless_each_length :
    (∃ units, toUtf16 (Unicode.toUtf8 ['a', 'é', '€', '😀']) = some units ∧
      toUtf8 units = some (Unicode.toUtf8 ['a', 'é', '€', '😀']) ∧
      Fits 10 2 units.length ∧ Fits units.length 4 10) ∧
    ∃ bytes, toUtf8 (Unicode.toUtf16 ['a', 'é', '€', '😀']) = some bytes ∧
      Fits 5 4 bytes.length ∧
      (toUtf16 bytes = some (Unicode.toUtf16 ['a', 'é', '€', '😀']) ↔ bytes.length < 2 ^ 30) ∧
      (bytes.length < 2 ^ 30 → Fits bytes.length 2 5) :=
  ⟨conversions_lossless.1 _ ⟨_, rfl⟩ (by decide), conversions_lossless.2 _ ⟨_, rfl⟩ (by decide)⟩

/-- Three bytes for each unit. -/
theorem euros_lost :
    WellFormed16 (Unicode.toUtf16 (List.replicate 536870911 '€')) ∧
      (Unicode.toUtf16 (List.replicate 536870911 '€')).length < 2 ^ 29 ∧
      (toUtf8 (Unicode.toUtf16 (List.replicate 536870911 '€'))).bind toUtf16 = none := by
  have unit : (utf16 '€').length = 1 := by decide
  have three : (utf8 '€').length = 3 := by decide
  have units := length_toUtf16_replicate 536870911 '€'
  have bytes := length_toUtf8_replicate 536870911 '€'
  rw [unit] at units
  rw [three] at bytes
  refine ⟨⟨_, rfl⟩, by omega, ?_⟩
  rw [toUtf8_toUtf16 (by omega), Option.bind_some]
  exact toUtf16_of_long (by omega) (by omega)

/-! What is ill-formed. `u_strToUTF8` reports an error, and the length of the result is not set. -/

/-- The length as an `int32_t` is one that a buffer is made for, and of what it counts all or
nothing is a character. -/
structure Convertible (units : List UInt16) : Prop where
  counted : 0 ≤ toLong units.length ∧ toLong units.length < 2 ^ 29
  whole : NoCharacter (pieces units) ∨
    WellFormed16 (units.take (toLong units.length).toNat) ∧
      NoCharacter (pieces (units.drop (toLong units.length).toNat))

theorem keeps_of_wellFormed {characters : List Char} {units rest : List UInt16}
    (cut : units = Unicode.toUtf16 characters ++ rest) :
    Keeps (pieces units) (Unicode.toUtf8 characters) ↔ NoCharacter (pieces rest) := by
  have kept := @keeps_characters_iff characters (pieces rest) []
  rw [List.append_nil] at kept
  rw [cut, pieces_toUtf16_append, kept, keeps_nil_iff]

theorem noCharacter_of_append {characters : List Char} {rest : List UInt16}
    (noCharacter : NoCharacter (pieces (Unicode.toUtf16 characters ++ rest))) :
    NoCharacter (pieces rest) := by
  rw [pieces_toUtf16_append] at noCharacter
  exact (List.forall_mem_append.mp noCharacter).2

theorem noCharacter_of_toUtf8 {characters : List Char} {rest : List UInt16}
    (nonempty : characters ≠ [])
    (converted : toUtf8 (Unicode.toUtf16 characters ++ rest) = some (Unicode.toUtf8 characters))
    (short : (Unicode.toUtf16 characters ++ rest).length < 2 ^ 31) : NoCharacter (pieces rest) := by
  generalize same : Unicode.toUtf16 characters ++ rest = units at converted short
  have exact : toLong units.length = units.length := toLong_of_fits (by omega) (by omega)
  rw [toUtf8_eq, exact, Int.toNat_natCast, List.take_length] at converted
  split at converted
  · cases decoded : decode units with
    | some others =>
        rw [decoded, Option.map_some, Option.getD_some, Option.some.injEq] at converted
        rw [decode_eq_some_iff, ← List.append_nil (Unicode.toUtf16 others)] at decoded
        have all := (keeps_of_wellFormed decoded).mpr (List.forall_mem_nil _)
        rw [converted] at all
        exact (keeps_of_wellFormed same.symm).mp all
    | none =>
        rw [decoded, Option.map_none, Option.getD_none, Option.some.injEq] at converted
        cases characters with
        | nil => exact absurd rfl nonempty
        | cons c characters =>
            rw [Unicode.toUtf8, List.flatMap_cons] at converted
            exact absurd (List.append_eq_nil_iff.mp converted.symm).1 (utf8_ne_nil c)
  · cases converted

theorem toUtf8_keeps_iff (units : List UInt16) :
    (∃ bytes, toUtf8 units = some bytes ∧ Keeps (pieces units) bytes) ↔ Convertible units := by
  rw [toUtf8_eq]
  by_cases counted : 0 ≤ toLong units.length ∧ toLong units.length < 2 ^ 29
  · rw [if_pos counted]
    simp only [Option.some.injEq, exists_eq_left']
    have split := (List.take_append_drop (toLong units.length).toNat units).symm
    cases decoded : decode (units.take (toLong units.length).toNat) with
    | some characters =>
        rw [decode_eq_some_iff] at decoded
        rw [decoded] at split
        rw [Option.map_some, Option.getD_some, keeps_of_wellFormed split]
        constructor
        · intro noCharacter
          exact ⟨counted, Or.inr ⟨⟨characters, decoded⟩, noCharacter⟩⟩
        · rintro ⟨-, noCharacter | ⟨-, noCharacter⟩⟩
          · rw [split] at noCharacter
            exact noCharacter_of_append noCharacter
          · exact noCharacter
    | none =>
        rw [Option.map_none, Option.getD_none, keeps_nil_iff]
        constructor
        · intro noCharacter
          exact ⟨counted, Or.inl noCharacter⟩
        · rintro ⟨-, noCharacter | ⟨wellFormed, -⟩⟩
          · exact noCharacter
          · rw [wellFormed16_iff, decoded] at wellFormed
            cases wellFormed
  · rw [if_neg counted]
    constructor
    · rintro ⟨bytes, found, -⟩
      cases found
    · intro convertible
      exact absurd convertible.counted counted

theorem one_surrogate_erases :
    toUtf8 [0x41, 0xd800] = some [] ∧ ¬ Keeps (pieces [0x41, 0xd800]) [] := by
  refine ⟨by decide, ?_⟩
  rw [keeps_nil_iff]
  decide

theorem convertible_iff {units : List UInt16} (short : units.length < 2 ^ 31) :
    Convertible units ↔
      units.length < 2 ^ 29 ∧ (NoCharacter (pieces units) ∨ WellFormed16 units) := by
  have exact : toLong units.length = units.length := toLong_of_fits (by omega) (by omega)
  have nothing : NoCharacter (pieces []) := List.forall_mem_nil _
  constructor
  · rintro ⟨counted, whole⟩
    rw [exact, Int.toNat_natCast, List.take_length, List.drop_length] at whole
    exact ⟨by omega, whole.imp_right And.left⟩
  · rintro ⟨bounded, whole⟩
    refine ⟨by omega, ?_⟩
    rw [exact, Int.toNat_natCast, List.take_length, List.drop_length]
    exact whole.imp_right fun wellFormed => ⟨wellFormed, nothing⟩

end LeanMiniViews.Icux
