import LeanMiniViews.Bits
import LeanMiniViews.IcuCore
import LeanMiniViews.Unicode

/-!
One code point of UTF-8: the reads of ICU take a character where one starts, and where none does
at most bytes that no character starts with.
-/

namespace LeanMiniViews.Icu

open Unicode

/-! The bytes of one character. -/

theorem toNat_byte {value : Nat} (small : value < 256) : (UInt8.ofNat value).toNat = value := by
  rw [UInt8.toNat_ofNat']
  exact Nat.mod_eq_of_lt small

theorem trailBits_eq {value : Nat} (small : value < 64) :
    trailBits (UInt8.ofNat (value + 0x80)) = some value := by
  have bits : (UInt8.ofNat (value + 0x80) - 0x80).toNat = value := by
    rw [UInt8.toNat_sub, toNat_byte (by omega), show (0x80 : UInt8).toNat = 0x80 from rfl]
    omega
  simp only [trailBits, bits]
  exact if_pos (by omega)

theorem isSingle_iff (value : Nat) : isSingle value = true ↔ value / 2 ^ 7 % 2 = 0 := by
  have field : value &&& 0x80 = value / 2 ^ 7 % 2 ^ 1 * 2 ^ 7 := Bits.and_field value 1 7
  rw [isSingle, field, beq_iff_eq]
  omega

theorem isValidLead3AndT1_iff (lead : Nat) {t1 : Nat} (isByte : t1 < 256) :
    isValidLead3AndT1 lead t1 = true ↔
      t1 / 32 = 4 ∧ lead % 16 ≠ 0 ∨ t1 / 32 = 5 ∧ lead % 16 ≠ 13 := by
  have table : ∀ row < 16, ∀ column < 8,
      (lead3T1Bits.getD row 0 &&& 1 <<< column != 0) =
        decide (column = 4 ∧ row ≠ 0 ∨ column = 5 ∧ row ≠ 13) := by decide
  have row : lead &&& 0xf = lead % 16 := Nat.and_two_pow_sub_one_eq_mod lead 4
  have column : t1 >>> 5 = t1 / 32 := Nat.shiftRight_eq_div_pow t1 5
  rw [isValidLead3AndT1, row, column, table _ (by omega) _ (by omega), decide_eq_true_iff]

theorem isValidLead4AndT1_iff (lead : Nat) {t1 : Nat} (isByte : t1 < 256) :
    isValidLead4AndT1 lead t1 = true ↔
      t1 / 16 = 8 ∧ 1 ≤ lead % 8 ∧ lead % 8 ≤ 4 ∨ 9 ≤ t1 / 16 ∧ t1 / 16 < 12 ∧ lead % 8 < 4 := by
  have table : ∀ row < 16, ∀ column < 8,
      (lead4T1Bits.getD row 0 &&& 1 <<< column != 0) =
        decide (row = 8 ∧ 1 ≤ column ∧ column ≤ 4 ∨ 9 ≤ row ∧ row < 12 ∧ column < 4) := by decide
  have row : t1 >>> 4 = t1 / 16 := Nat.shiftRight_eq_div_pow t1 4
  have column : lead &&& 7 = lead % 8 := Nat.and_two_pow_sub_one_eq_mod lead 3
  rw [isValidLead4AndT1, row, column, table _ (by omega) _ (by omega), decide_eq_true_iff]

theorem low6_eq {value : Nat} (small : value < 64) : value + 0x80 &&& 0x3f = value :=
  Bits.and_low (show value < 2 ^ 6 by omega) 2

theorem or_shifted {low : Nat} (width high : Nat) (small : low < 2 ^ width) :
    high <<< width ||| low = high * 2 ^ width + low := by
  rw [Nat.or_comm, Bits.or_field small, Nat.add_comm]

/-! What starts with each kind of byte. -/

theorem inlineNext_single {value : Nat} (small : value < 0x80) (rest : List UInt8) :
    inlineNext (UInt8.ofNat value) rest = some (value, rest) := by
  simp only [inlineNext, toNat_byte (show value < 256 by omega), isSingle_iff]
  exact if_pos (by omega)

theorem inlineNext_two {high low : Nat} (highBound : 2 ≤ high ∧ high < 32) (lowBound : low < 64)
    (rest : List UInt8) :
    inlineNext (UInt8.ofNat (high + 0xc0)) (UInt8.ofNat (low + 0x80) :: rest) =
      some (high * 64 + low, rest) := by
  have lead : high + 0xc0 &&& 0x1f = high := Bits.and_low (show high < 2 ^ 5 by omega) 6
  have value : high <<< 6 ||| low = high * 64 + low := by
    have joined := or_shifted 6 high (show low < 2 ^ 6 by omega)
    omega
  simp only [inlineNext, toNat_byte (show high + 0xc0 < 256 by omega), isSingle_iff,
    trailBits_eq lowBound, lead, value, Option.map_some]
  rw [if_neg (by omega), if_neg (by omega), if_pos (by omega)]

theorem inlineNext_three {high mid low : Nat} (highBound : high < 16) (midBound : mid < 64)
    (lowBound : low < 64) (notOverlong : high = 0 → 32 ≤ mid)
    (notSurrogate : high = 13 → mid < 32) (rest : List UInt8) :
    inlineNext (UInt8.ofNat (high + 0xe0))
        (UInt8.ofNat (mid + 0x80) :: UInt8.ofNat (low + 0x80) :: rest) =
      some (high * 4096 + mid * 64 + low, rest) := by
  have lead : high + 0xe0 &&& 0xf = high := Bits.and_low (show high < 2 ^ 4 by omega) 14
  have value : high <<< 12 ||| mid <<< 6 ||| low = high * 4096 + mid * 64 + low := by
    have shifted : mid <<< 6 = mid * 2 ^ 6 := Nat.shiftLeft_eq mid 6
    rw [Nat.or_assoc, or_shifted 6 mid (show low < 2 ^ 6 by omega),
      or_shifted 12 high (show mid * 2 ^ 6 + low < 2 ^ 12 by omega)]
    omega
  have valid : isValidLead3AndT1 (high + 0xe0) (mid + 0x80) = true :=
    (isValidLead3AndT1_iff _ (by omega)).mpr (by omega)
  simp only [inlineNext, toNat_byte (show high + 0xe0 < 256 by omega),
    toNat_byte (show mid + 0x80 < 256 by omega), isSingle_iff, trailBits_eq lowBound, lead,
    low6_eq midBound, valid, value, Option.map_some, if_true]
  rw [if_neg (by omega), if_pos (by omega)]

theorem inlineNext_long {high : Nat} (highBound : high < 5) (rest : List UInt8) :
    inlineNext (UInt8.ofNat (high + 0xf0)) rest = none := by
  simp only [inlineNext, toNat_byte (show high + 0xf0 < 256 by omega), isSingle_iff]
  rw [if_neg (by omega), if_neg (by omega), if_neg (by omega)]

theorem nextCharSafeBody_four {high mid second low : Nat} (highBound : high < 5)
    (midBound : mid < 64) (secondBound : second < 64) (lowBound : low < 64)
    (notOverlong : high = 0 → 16 ≤ mid) (inRange : high = 4 → mid < 16) (rest : List UInt8) :
    nextCharSafeBody (UInt8.ofNat (high + 0xf0))
        (UInt8.ofNat (mid + 0x80) :: UInt8.ofNat (second + 0x80) :: UInt8.ofNat (low + 0x80) ::
          rest) =
      (some (high * 262144 + mid * 4096 + second * 64 + low), rest) := by
  have lead : high + 0xf0 &&& 7 = high := Bits.and_low (show high < 2 ^ 3 by omega) 30
  have value : high <<< 18 ||| mid <<< 12 ||| second <<< 6 ||| low =
      high * 262144 + mid * 4096 + second * 64 + low := by
    rw [Nat.or_assoc, Nat.or_assoc, or_shifted 6 second (show low < 2 ^ 6 by omega),
      or_shifted 12 mid (show second * 2 ^ 6 + low < 2 ^ 12 by omega),
      or_shifted 18 high (show mid * 2 ^ 12 + (second * 2 ^ 6 + low) < 2 ^ 18 by omega)]
    omega
  have valid : isValidLead4AndT1 high (mid + 0x80) = true :=
    (isValidLead4AndT1_iff _ (by omega)).mpr (by omega)
  simp only [nextCharSafeBody, toNat_byte (show high + 0xf0 < 256 by omega),
    toNat_byte (show mid + 0x80 < 256 by omega), trailBits_eq secondBound, trailBits_eq lowBound,
    lead, low6_eq midBound, valid, value, if_true]
  rw [if_neg (by omega), if_pos (by omega)]

/-- A character is taken off the front of the bytes, without a call unless it has four of them. -/
structure Starts (subchar : Option Nat) (c : Char) (first : UInt8) (tail : List UInt8) : Prop where
  utf8_eq : utf8 c = first :: tail
  inline : ∀ rest,
    inlineNext first (tail ++ rest) = if c.toNat ≤ 0xffff then some (c.toNat, rest) else none
  long : 0xffff < c.toNat → first.toNat ≥ 0xf0
  read : ∀ rest, readUTF8 subchar first (tail ++ rest) = .ok (c.toNat, rest)

theorem readUTF8_of_inline {subchar : Option Nat} {first : UInt8} {rest : List UInt8}
    {found : Nat × List UInt8} (inline : inlineNext first rest = some found) :
    readUTF8 subchar first rest = .ok found := by
  simp only [readUTF8, inline]

theorem starts_of_inline {subchar : Option Nat} {c : Char} {first : UInt8} {tail : List UInt8}
    (utf8_eq : utf8 c = first :: tail) (small : c.toNat ≤ 0xffff)
    (inline : ∀ rest, inlineNext first (tail ++ rest) = some (c.toNat, rest)) :
    Starts subchar c first tail := by
  constructor
  · exact utf8_eq
  · intro rest
    rw [if_pos small]
    exact inline rest
  · intro large
    omega
  · intro rest
    exact readUTF8_of_inline (inline rest)

theorem exists_starts (subchar : Option Nat) (c : Char) :
    ∃ first tail, Starts subchar c first tail := by
  have valid := toNat_valid c
  have bytes := utf8_eq c
  by_cases one : c.toNat ≤ 0x7f
  · rw [if_pos one] at bytes
    exact ⟨_, _, starts_of_inline bytes (by omega) fun rest =>
      inlineNext_single (by omega) rest⟩
  rw [if_neg one] at bytes
  by_cases two : c.toNat ≤ 0x7ff
  · rw [if_pos two] at bytes
    refine ⟨_, _, starts_of_inline bytes (by omega) fun rest => ?_⟩
    have value : c.toNat / 64 % 32 * 64 + c.toNat % 64 = c.toNat := by omega
    have inline := inlineNext_two (show 2 ≤ c.toNat / 64 % 32 ∧ c.toNat / 64 % 32 < 32 by omega)
      (show c.toNat % 64 < 64 by omega) rest
    rwa [value] at inline
  rw [if_neg two] at bytes
  by_cases three : c.toNat ≤ 0xffff
  · rw [if_pos three] at bytes
    refine ⟨_, _, starts_of_inline bytes three fun rest => ?_⟩
    have value : c.toNat / 4096 % 16 * 4096 + c.toNat / 64 % 64 * 64 + c.toNat % 64 = c.toNat := by
      omega
    have inline := inlineNext_three (show c.toNat / 4096 % 16 < 16 by omega)
      (show c.toNat / 64 % 64 < 64 by omega) (show c.toNat % 64 < 64 by omega) (by omega)
      (by omega) rest
    rwa [value] at inline
  rw [if_neg three] at bytes
  have value : c.toNat / 262144 % 8 * 262144 + c.toNat / 4096 % 64 * 4096 +
      c.toNat / 64 % 64 * 64 + c.toNat % 64 = c.toNat := by omega
  have lead : c.toNat / 262144 % 8 < 5 := by omega
  refine ⟨_, _, bytes, ?_, ?_, ?_⟩
  · intro rest
    rw [if_neg three]
    exact inlineNext_long lead _
  · intro _
    rw [toNat_byte (by omega)]
    omega
  · intro rest
    have body := nextCharSafeBody_four lead (show c.toNat / 4096 % 64 < 64 by omega)
      (show c.toNat / 64 % 64 < 64 by omega) (show c.toNat % 64 < 64 by omega) (by omega)
      (by omega) rest
    rw [value] at body
    simp only [List.cons_append, List.nil_append, readUTF8, inlineNext_long lead, body]

/-! What starts where the reads find something. -/

theorem isTrailByte_of_trailBits {byte : UInt8} {bits : Nat}
    (found : trailBits byte = some bits) : IsTrailByte byte := by
  have isByte := byte.toNat_lt
  have difference : (byte - 0x80).toNat = (2 ^ 8 - 0x80 + byte.toNat) % 2 ^ 8 := UInt8.toNat_sub ..
  rw [trailBits] at found
  split at found
  · unfold IsTrailByte
    omega
  · cases found

theorem startsCharacter_of_inlineNext {first : UInt8} {rest : List UInt8}
    {found : Nat × List UInt8} (inline : inlineNext first rest = some found) :
    StartsCharacter (first :: rest) := by
  have isByte := first.toNat_lt
  simp only [inlineNext, isSingle_iff] at inline
  split at inline
  · exact startsCharacter_one (by omega) rest
  · split at inline
    · rename_i lead
      cases rest with
      | nil => cases inline
      | cons t1 afterFirst =>
          cases afterFirst with
          | nil => cases inline
          | cons t2 later =>
              have isByte := t1.toNat_lt
              simp only [isValidLead3AndT1_iff _ isByte] at inline
              split at inline
              · rename_i valid
                obtain ⟨bits, trail, -⟩ := Option.map_eq_some_iff.mp inline
                exact startsCharacter_three lead ⟨by omega, by omega⟩
                  (isTrailByte_of_trailBits trail) (by omega) (by omega) later
              · cases inline
    · split at inline
      · rename_i lead
        cases rest with
        | nil => cases inline
        | cons t1 later =>
            obtain ⟨bits, trail, -⟩ := Option.map_eq_some_iff.mp inline
            exact startsCharacter_two ⟨lead.2, lead.1⟩ (isTrailByte_of_trailBits trail) later
      · cases inline

/-- Bytes that no character starts with are passed over, two at most. -/
def PassesOver (rest later : List UInt8) : Prop :=
  ∃ skipped, rest = skipped ++ later ∧ skipped.length ≤ 2 ∧ ∀ byte ∈ skipped, IsTrailByte byte

theorem PassesOver.refl (rest : List UInt8) : PassesOver rest rest :=
  ⟨[], rfl, Nat.zero_le 2, List.forall_mem_nil _⟩

theorem PassesOver.one {byte : UInt8} (trail : IsTrailByte byte) (later : List UInt8) :
    PassesOver (byte :: later) later :=
  ⟨[byte], rfl, Nat.le_succ 1, List.forall_mem_singleton.mpr trail⟩

theorem PassesOver.two {first second : UInt8} (trail : IsTrailByte first)
    (next : IsTrailByte second) (later : List UInt8) :
    PassesOver (first :: second :: later) later :=
  ⟨[first, second], rfl, Nat.le_refl 2,
    List.forall_mem_cons.mpr ⟨trail, List.forall_mem_singleton.mpr next⟩⟩

/-- Without a character, nothing but such bytes is taken off the rest. -/
def TakesCharacter (c : UInt8) (rest : List UInt8) : Prop :=
  StartsCharacter (c :: rest) ∨
    ∃ later, nextCharSafeBody c rest = (none, later) ∧ PassesOver rest later

theorem takesCharacter_four {c : UInt8} (lead : 0xf0 ≤ c.toNat ∧ c.toNat ≤ 0xf4) (t1 : UInt8)
    (afterFirst : List UInt8) : TakesCharacter c (t1 :: afterFirst) := by
  have isByte := t1.toNat_lt
  have column : c.toNat &&& 7 = c.toNat % 8 := Nat.and_two_pow_sub_one_eq_mod c.toNat 3
  rw [TakesCharacter]
  generalize body : nextCharSafeBody c (t1 :: afterFirst) = result
  simp only [nextCharSafeBody, isValidLead4AndT1_iff _ isByte, column] at body
  rw [if_neg (by omega), if_pos (by omega)] at body
  split at body
  · rename_i valid
    have trail : IsTrailByte t1 := ⟨by omega, by omega⟩
    cases afterFirst with
    | nil => exact Or.inr ⟨_, body.symm, .one trail _⟩
    | cons t2 afterSecond =>
        cases next : trailBits t2 with
        | none =>
            simp only [next] at body
            exact Or.inr ⟨_, body.symm, .one trail _⟩
        | some bits =>
            have isTrail := isTrailByte_of_trailBits next
            simp only [next] at body
            cases afterSecond with
            | nil => exact Or.inr ⟨_, body.symm, .two trail isTrail _⟩
            | cons t3 later =>
                cases last : trailBits t3 with
                | none =>
                    simp only [last] at body
                    exact Or.inr ⟨_, body.symm, .two trail isTrail _⟩
                | some low =>
                    exact Or.inl (startsCharacter_four lead trail isTrail
                      (isTrailByte_of_trailBits last) (by omega) (by omega) later)
  · exact Or.inr ⟨_, body.symm, .refl _⟩

theorem takesCharacter_three {c : UInt8} (lead : 0xe0 ≤ c.toNat ∧ c.toNat < 0xf0) (t1 : UInt8)
    (afterFirst : List UInt8) : TakesCharacter c (t1 :: afterFirst) := by
  have isByte := t1.toNat_lt
  have row : c.toNat &&& 0xf = c.toNat % 16 := Nat.and_two_pow_sub_one_eq_mod c.toNat 4
  rw [TakesCharacter]
  generalize body : nextCharSafeBody c (t1 :: afterFirst) = result
  simp only [nextCharSafeBody, isValidLead3AndT1_iff _ isByte, row] at body
  rw [if_neg (by omega), if_neg (by omega), if_pos (by omega)] at body
  split at body
  · rename_i valid
    have trail : IsTrailByte t1 := ⟨by omega, by omega⟩
    cases afterFirst with
    | nil => exact Or.inr ⟨_, body.symm, .one trail _⟩
    | cons t2 later =>
        cases last : trailBits t2 with
        | none =>
            simp only [last] at body
            exact Or.inr ⟨_, body.symm, .one trail _⟩
        | some low =>
            exact Or.inl (startsCharacter_three lead trail (isTrailByte_of_trailBits last)
              (by omega) (by omega) later)
  · exact Or.inr ⟨_, body.symm, .refl _⟩

theorem takesCharacter_two {c : UInt8} (lead : 0xc2 ≤ c.toNat ∧ c.toNat < 0xe0) (t1 : UInt8)
    (afterFirst : List UInt8) : TakesCharacter c (t1 :: afterFirst) := by
  rw [TakesCharacter]
  generalize body : nextCharSafeBody c (t1 :: afterFirst) = result
  simp only [nextCharSafeBody] at body
  rw [if_neg (by omega), if_neg (by omega), if_neg (by omega), if_pos lead.1] at body
  cases last : trailBits t1 with
  | none =>
      simp only [last] at body
      exact Or.inr ⟨_, body.symm, .refl _⟩
  | some low =>
      exact Or.inl (startsCharacter_two lead (isTrailByte_of_trailBits last) afterFirst)

theorem takesCharacter (c : UInt8) (rest : List UInt8) : TakesCharacter c rest := by
  cases rest with
  | nil => exact Or.inr ⟨[], rfl, .refl []⟩
  | cons t1 afterFirst =>
      by_cases noLead : c.toNat < 0xc2 ∨ 0xf4 < c.toNat
      · refine Or.inr ⟨t1 :: afterFirst, ?_, .refl _⟩
        simp only [nextCharSafeBody]
        split
        · rfl
        · rw [if_neg (by omega), if_neg (by omega), if_neg (by omega)]
      · by_cases four : 0xf0 ≤ c.toNat
        · exact takesCharacter_four ⟨four, by omega⟩ t1 afterFirst
        · by_cases three : 0xe0 ≤ c.toNat
          · exact takesCharacter_three ⟨three, by omega⟩ t1 afterFirst
          · exact takesCharacter_two ⟨by omega, by omega⟩ t1 afterFirst

theorem readUTF8_of_not_starts {subchar : Nat} {first : UInt8} {rest : List UInt8}
    (noStart : ¬ StartsCharacter (first :: rest)) :
    inlineNext first rest = none ∧
      ∃ later, readUTF8 (some subchar) first rest = .ok (subchar, later) ∧
        PassesOver rest later := by
  have inline : inlineNext first rest = none := by
    rw [Option.eq_none_iff_forall_ne_some]
    intro found inline
    exact noStart (startsCharacter_of_inlineNext inline)
  obtain starts | ⟨later, body, passes⟩ := takesCharacter first rest
  · exact absurd starts noStart
  · refine ⟨inline, later, ?_, passes⟩
    simp only [readUTF8, inline, body, substitute]

/-! The units of one character. -/

theorem lead_eq (c : Nat) (large : 0x10000 ≤ c) :
    lead c = UInt16.ofNat (0xd800 + (c - 0x10000) / 0x400) := by
  rw [lead, Nat.shiftRight_eq_div_pow]
  exact congrArg UInt16.ofNat (by omega)

theorem trail_eq (c : Nat) (large : 0x10000 ≤ c) :
    trail c = UInt16.ofNat (0xdc00 + (c - 0x10000) % 0x400) := by
  have low : c &&& 0x3ff = c % 2 ^ 10 := Nat.and_two_pow_sub_one_eq_mod c 10
  have joined : c % 2 ^ 10 ||| 0xdc00 = c % 2 ^ 10 + 0xdc00 :=
    Bits.or_field (Nat.mod_lt c (by decide)) 55
  rw [trail, low, joined]
  exact congrArg UInt16.ofNat (by omega)

theorem utf16_of_large {c : Char} (large : 0xffff < c.toNat) :
    utf16 c = [lead c.toNat, trail c.toNat] := by
  rw [utf16, if_neg (by omega), lead_eq c.toNat large, trail_eq c.toNat large]

theorem appendUTF16_eq (c : Char) : appendUTF16 c.toNat = utf16 c := by
  unfold appendUTF16
  split
  · rename_i small
    rw [utf16, if_pos (by omega)]
  · rename_i large
    exact (utf16_of_large (by omega)).symm

end LeanMiniViews.Icu
