import LeanMiniViews.NumberFields
import Mathlib.Data.List.Induction

/-!
`GetEditBinaryNum`: the scan from the last character to the first. The table has one value for
each bit of the result, and nothing keeps a longer text from asking for another.
-/

namespace LeanMiniViews

namespace EditControl

open Strtol (valueOf)

def IsBit (c : Char) : Prop := c = '0' ∨ c = '1'

/-- The texts of a number of so many bits. -/
def IsBinary (width : Nat) (text : List Char) : Prop :=
  text ≠ [] ∧ (∀ c ∈ text, IsBit c) ∧ valueOf 2 text < 2 ^ width

/-- A `1` so many places before the end or more, which the scan reaches. -/
def OneBeyond (width : Nat) (text : List Char) : Prop :=
  ∃ before after, text = before ++ '1' :: after ∧ width ≤ after.length ∧ ∀ c ∈ after, IsBit c

/-- What is read is the numbers of the width, and nothing else. -/
structure ReadsBinary (width : Nat) (read : EditControl → Nat → Option (Bool × Nat))
    (text : List Char) : Prop where
  accepts : ∀ dest, IsBinary width text → read (showing text) dest = some (true, valueOf 2 text)
  refuses : ∀ dest, ¬ IsBinary width text → read (showing text) dest = some (false, dest)

/-! Values. -/

theorem isDigit_of_isBit {c : Char} (bit : IsBit c) : Strtol.isDigit 2 c = true := by
  rcases bit with rfl | rfl
  · rfl
  · rfl

theorem valueOf_lt_of_bits {text : List Char} (only : ∀ c ∈ text, IsBit c) :
    valueOf 2 text < 2 ^ text.length :=
  Strtol.valueOf_lt fun c member => isDigit_of_isBit (only c member)

theorem valueOf_one_cons (rest : List Char) :
    valueOf 2 ('1' :: rest) = 2 ^ rest.length + valueOf 2 rest := by
  rw [Strtol.valueOf_cons, show Strtol.digitOf '1' = 1 from rfl, Nat.one_mul]

theorem valueOf_le_append (before after : List Char) :
    valueOf 2 after ≤ valueOf 2 (before ++ after) := by
  induction before with
  | nil => exact Nat.le_refl _
  | cons first rest ih =>
      rw [List.cons_append, Strtol.valueOf_cons]
      exact Nat.le_add_left_of_le ih

theorem le_valueOf_of_oneBeyond {width : Nat} {text : List Char} (beyond : OneBeyond width text) :
    2 ^ width ≤ valueOf 2 text := by
  obtain ⟨before, after, rfl, far, -⟩ := beyond
  calc
    2 ^ width ≤ 2 ^ after.length := Nat.pow_le_pow_right (by decide) far
    _ ≤ valueOf 2 ('1' :: after) := by
      rw [valueOf_one_cons]
      exact Nat.le_add_right _ _
    _ ≤ valueOf 2 (before ++ '1' :: after) := valueOf_le_append before _

theorem oneBeyond_of_stop {width : Nat} {before after : List Char} {stop : Char}
    (noBit : ¬ IsBit stop) (beyond : OneBeyond width (before ++ stop :: after)) :
    OneBeyond width after := by
  obtain ⟨earlier, later, same, far, bits⟩ := beyond
  rcases List.append_eq_append_iff.mp same with ⟨middle, -, rest⟩ | ⟨middle, -, rest⟩
  · cases middle with
    | nil =>
        obtain ⟨rfl, rfl⟩ := List.cons.inj rest
        exact absurd (Or.inr rfl) noBit
    | cons first middle =>
        obtain ⟨rfl, rfl⟩ := List.cons.inj rest
        exact ⟨middle, later, rfl, far, bits⟩
  · cases middle with
    | nil =>
        obtain ⟨rfl, rfl⟩ := List.cons.inj rest
        exact absurd (Or.inr rfl) noBit
    | cons first middle =>
        obtain ⟨rfl, rfl⟩ := List.cons.inj rest
        exact absurd (bits stop (by simp)) noBit

/-! The scan. -/

def bitValues (width : Nat) : List Nat := (List.range width).map (2 ^ ·)

theorem u16BitValues_eq : u16BitValues = bitValues 16 := by decide

theorem u32BitValues_eq : u32BitValues = bitValues 32 := by decide

theorem scanBits_step (width : Nat) (front : List Char) (c : Char) (back : List Char)
    (temp : Nat) :
    scanBits (bitValues width) (front ++ c :: back) (front.length + 1) temp =
      if c = '1' then
        if back.length < width then
          scanBits (bitValues width) (front ++ c :: back) front.length (temp ||| 2 ^ back.length)
        else none
      else if c ≠ '0' then some none
      else scanBits (bitValues width) (front ++ c :: back) front.length temp := by
  have current : (front ++ c :: back)[front.length]? = some c := by simp
  have place : (front ++ c :: back).length - 1 - front.length = back.length := by
    rw [List.length_append, List.length_cons]
    omega
  rw [scanBits, current, Option.bind_some, place]
  by_cases inside : back.length < width
  · simp [bitValues, inside]
  · simp [bitValues, inside]

/-- How the scan of a text ends: outside of the table, at a character that is no bit, or with the
number. -/
inductive ScanOutcome (width : Nat) (text : List Char) : Option (Option Nat) → Prop where
  | leaves (beyond : OneBeyond width text) : ScanOutcome width text none
  | refuses (stop : ¬ ∀ c ∈ text, IsBit c) (within : ¬ OneBeyond width text) :
      ScanOutcome width text (some none)
  | accepts (bits : ∀ c ∈ text, IsBit c) (small : valueOf 2 text < 2 ^ width) :
      ScanOutcome width text (some (some (valueOf 2 text)))

theorem scanBits_outcome {width : Nat} (front : List Char) {back : List Char}
    (bits : ∀ c ∈ back, IsBit c) (small : valueOf 2 back < 2 ^ width) :
    ScanOutcome width (front ++ back)
      (scanBits (bitValues width) (front ++ back) front.length (valueOf 2 back)) := by
  induction front using List.reverseRecOn generalizing back with
  | nil => exact .accepts bits small
  | append_singleton front c ih =>
      rw [List.append_assoc, List.singleton_append, List.length_append, List.length_singleton,
        scanBits_step]
      have below := valueOf_lt_of_bits bits
      by_cases one : c = '1'
      · subst one
        have more : ∀ c ∈ '1' :: back, IsBit c := List.forall_mem_cons.mpr ⟨Or.inr rfl, bits⟩
        rw [if_pos rfl]
        by_cases inside : back.length < width
        · have value : valueOf 2 back ||| 2 ^ back.length = valueOf 2 ('1' :: back) := by
            rw [Nat.or_two_pow_eq_add_of_lt below, valueOf_one_cons, Nat.add_comm]
          have still : valueOf 2 ('1' :: back) < 2 ^ width :=
            (valueOf_lt_of_bits more).trans_le (Nat.pow_le_pow_right (by decide) inside)
          rw [if_pos inside, value]
          exact ih more still
        · rw [if_neg inside]
          exact .leaves ⟨front, back, rfl, Nat.le_of_not_lt inside, bits⟩
      · rw [if_neg one]
        by_cases zero : c = '0'
        · subst zero
          rw [if_neg (by decide), ← Strtol.valueOf_zero_cons 2 back]
          refine ih (List.forall_mem_cons.mpr ⟨Or.inl rfl, bits⟩) ?_
          rwa [Strtol.valueOf_zero_cons]
        · have noBit : ¬ IsBit c := by
            rintro (isZero | isOne)
            · exact zero isZero
            · exact one isOne
          rw [if_pos zero]
          refine .refuses ?_ ?_
          · intro all
            exact noBit (all c (by simp))
          · intro beyond
            exact Nat.not_le_of_lt small (le_valueOf_of_oneBeyond (oneBeyond_of_stop noBit beyond))

theorem readsBinary_iff (width : Nat) (text : List Char) :
    ReadsBinary width (getEditBinaryNum (bitValues width)) text ↔ ¬ OneBeyond width text := by
  cases text with
  | nil =>
      refine iff_of_true ⟨?_, ?_⟩ ?_
      · rintro dest ⟨nonempty, -⟩
        exact absurd rfl nonempty
      · intro dest _
        rfl
      · rintro ⟨before, after, same, -⟩
        exact absurd same (by simp)
  | cons first rest =>
      let text := first :: rest
      have read (dest : Nat) : getEditBinaryNum (bitValues width) (showing text) dest =
          (scanBits (bitValues width) text text.length 0).map fun number =>
            number.elim (false, dest) fun temp => (true, temp) := by
        rw [getEditBinaryNum, getWinText_showing]
        exact if_pos (Nat.succ_pos _)
      have outcome := @scanBits_outcome width text [] (by simp) (by simp [valueOf])
      rw [List.append_nil] at outcome
      change ScanOutcome width text (scanBits (bitValues width) text text.length 0) at outcome
      generalize scanBits (bitValues width) text text.length 0 = result at read outcome
      cases outcome with
      | leaves beyond =>
          refine iff_of_false ?_ (not_not_intro beyond)
          intro reads
          have refused := reads.refuses 0 fun binary =>
            Nat.not_le_of_lt binary.2.2 (le_valueOf_of_oneBeyond beyond)
          rw [read] at refused
          cases refused
      | refuses stop within =>
          refine iff_of_true ⟨?_, ?_⟩ within
          · intro dest binary
            exact absurd binary.2.1 stop
          · intro dest _
            exact read dest
      | accepts bits small =>
          refine iff_of_true ⟨?_, ?_⟩ ?_
          · intro dest _
            exact read dest
          · intro dest notBinary
            exact absurd ⟨List.cons_ne_nil _ _, bits, small⟩ notBinary
          · intro beyond
            exact Nat.not_le_of_lt small (le_valueOf_of_oneBeyond beyond)

/-- Both overloads read a text as they should exactly if the scan meets no `1` in front of as
many bits as the result has. -/
theorem getEditBinaryNum_reads_iff (text : List Char) :
    (ReadsBinary 16 getEditBinaryNumU16 text ↔ ¬ OneBeyond 16 text) ∧
      (ReadsBinary 32 getEditBinaryNumU32 text ↔ ¬ OneBeyond 32 text) := by
  rw [getEditBinaryNumU16, getEditBinaryNumU32, u16BitValues_eq, u32BitValues_eq]
  exact ⟨readsBinary_iff 16 text, readsBinary_iff 32 text⟩

/-- `1` and sixteen times `0`. -/
theorem getEditBinaryNum_leaves_table :
    ¬ ∀ text, ReadsBinary 16 getEditBinaryNumU16 text ∧
      ReadsBinary 32 getEditBinaryNumU32 text := by
  intro claim
  have tooLarge : ¬ IsBinary 16 ('1' :: List.replicate 16 '0') :=
    fun binary => absurd binary.2.2 (by decide)
  have refused := (claim ('1' :: List.replicate 16 '0')).1.refuses 0 tooLarge
  exact absurd refused (by decide)

/-! What `SetEditBinaryNum` writes. -/

theorem isBit_of_mem_toDigits {value : Nat} {c : Char} (member : c ∈ Nat.toDigits 2 value) :
    IsBit c := by
  induction value using Nat.strongRecOn with
  | _ value ih =>
      have last (bit : Nat) (small : bit < 2) : IsBit (Nat.digitChar bit) := by
        rcases Nat.lt_or_ge bit 1 with zero | one
        · obtain rfl : bit = 0 := by omega
          exact Or.inl rfl
        · obtain rfl : bit = 1 := by omega
          exact Or.inr rfl
      by_cases small : value < 2
      · rw [Nat.toDigits_of_lt_base small, List.mem_singleton] at member
        rw [member]
        exact last value small
      · rw [Nat.toDigits_of_base_le (by omega) (by omega), List.mem_append,
          List.mem_singleton] at member
        rcases member with earlier | isLast
        · exact ih (value / 2) (by omega) earlier
        · rw [isLast]
          exact last (value % 2) (by omega)

theorem valueOf_toDigits (value : Nat) : valueOf 2 (Nat.toDigits 2 value) = value := by
  have only : ∀ c ∈ Nat.toDigits 2 value, c.isDigit = true :=
    fun c member => Nat.isDigit_of_mem_toDigits (by omega) (by omega) member
  rw [Strtol.valueOf_eq_ofDigitChars only, Nat.ofDigitChars_toDigits (by omega) (by omega)]

theorem valueOf_padded (count : Nat) (text : List Char) :
    valueOf 2 (List.replicate count '0' ++ text) = valueOf 2 text := by
  induction count with
  | zero => rfl
  | succ count ih => rw [List.replicate_succ, List.cons_append, Strtol.valueOf_zero_cons, ih]

theorem isBit_of_mem_leftpad {width : Nat} {text : List Char} (bits : ∀ c ∈ text, IsBit c) :
    ∀ c ∈ text.leftpad width '0', IsBit c := by
  intro c member
  rw [List.leftpad, List.mem_append] at member
  rcases member with padding | inText
  · exact Or.inl (List.eq_of_mem_replicate padding)
  · exact bits c inText

theorem nul_not_mem_of_bits {text : List Char} (bits : ∀ c ∈ text, IsBit c) :
    Buffers.nul ∉ text := by
  intro member
  rcases bits _ member with zero | one
  · exact absurd zero (by decide)
  · exact absurd one (by decide)

/-- The digits stand at the front of the buffer, and there is room for as many as are wanted. -/
theorem padBinary_eq {numBits : Nat} {digits after : List Char} (short : digits.length ≤ numBits)
    (room : numBits ≤ digits.length + after.length) :
    ∃ rest, padBinary numBits digits.length (digits ++ Buffers.nul :: after) =
      some (digits.leftpad numBits '0' ++ Buffers.nul :: rest) := by
  let gap := numBits - digits.length
  have inside : gap < (Buffers.nul :: after).length := by
    rw [List.length_cons]
    omega
  obtain ⟨front, frontLength, moved⟩ :=
    Buffers.move_back digits (Buffers.nul :: after) (Nat.le_of_lt inside)
  rw [List.drop_eq_getElem_cons inside, List.append_assoc] at moved
  have filled := Buffers.fill_append front
    (digits ++ (Buffers.nul :: after)[gap] :: (Buffers.nul :: after).drop (gap + 1)) '0' frontLength
  have stored := Buffers.store_append (digits.leftpad numBits '0') (Buffers.nul :: after)[gap]
    Buffers.nul ((Buffers.nul :: after).drop (gap + 1))
  rw [List.length_leftpad, Nat.max_eq_left short, List.leftpad, List.append_assoc] at stored
  refine ⟨(Buffers.nul :: after).drop (gap + 1), ?_⟩
  rw [padBinary, moved, Option.bind_some, filled, Option.bind_some, stored, List.leftpad]

theorem setEditBinaryNum_eq (control : EditControl) (behind : Nat → Char)
    {numType : IntegralType} (some32 : 0 < numType.bits ∧ numType.bits ≤ 32) {num : Nat}
    (small : num < 2 ^ numType.bits) :
    control.setEditBinaryNum behind numType num =
      some (control.setText ((Nat.toDigits 2 num).leftpad numType.bits '0')) := by
  have bound : (2 : Nat) ^ numType.bits ≤ 2 ^ 32 := Nat.pow_le_pow_right (by decide) some32.2
  have temp : ((num : Int) % 4294967296).toNat = num := by omega
  generalize digits : Nat.toDigits 2 num = text
  have bits : ∀ c ∈ text, IsBit c := fun c member =>
    isBit_of_mem_toDigits (digits ▸ member)
  have short : text.length ≤ numType.bits := by
    rw [← digits]
    exact (Nat.length_toDigits_le_iff (by decide) some32.1).mpr small
  have positive : 0 < text.length := by
    rw [← digits]
    exact Nat.length_toDigits_pos
  let after := (List.range (36 - (text.length + 1))).map behind
  have written : itoa_s behind num (List.replicate 36 Buffers.nul) =
      some (text ++ Buffers.nul :: after) := by
    simp only [itoa_s, digits, List.length_append, List.length_singleton, List.length_replicate]
    rw [if_pos (by omega), List.append_assoc, List.singleton_append]
  have read (rest : List Char) (padded : List Char) (only : ∀ c ∈ padded, IsBit c) :
      Buffers.cString (padded ++ Buffers.nul :: rest) = some padded :=
    Buffers.cString_append (nul_not_mem_of_bits only) rest
  rw [setEditBinaryNum, temp, written, Option.bind_some, read after text bits, Option.bind_some]
  dsimp only
  by_cases shorter : text.length < numType.bits
  · have room : numType.bits ≤ text.length + after.length := by
      rw [List.length_map, List.length_range]
      omega
    obtain ⟨rest, padded⟩ := padBinary_eq short room
    rw [if_pos ⟨positive, shorter, by omega⟩, padded, Option.bind_some,
      read rest _ (isBit_of_mem_leftpad bits), Option.map_some]
  · have full : text.leftpad numType.bits '0' = text := by
      rw [List.leftpad, Nat.sub_eq_zero_of_le (by omega), List.replicate_zero, List.nil_append]
    rw [if_neg (not_and_of_not_right _ (not_and_of_not_left _ shorter)), Option.bind_some,
      read after text bits, Option.map_some, full]

theorem not_oneBeyond_of_length {width : Nat} {text : List Char} (length : text.length = width) :
    ¬ OneBeyond width text := by
  rintro ⟨before, after, rfl, far, -⟩
  rw [List.length_append, List.length_cons] at length
  omega

structure BinaryRoundTrip (width num : Nat) (written : Option EditControl)
    (read : EditControl → Nat → Option (Bool × Nat)) : Prop where
  writes : written = some (showing ((Nat.toDigits 2 num).leftpad width '0'))
  full : ((Nat.toDigits 2 num).leftpad width '0').length = width
  reads : ∀ dest, (written.bind fun control => read control dest) = some (true, num)

theorem binaryRoundTrip (old : List Char) (behind : Nat → Char) {numType : IntegralType}
    (some32 : 0 < numType.bits ∧ numType.bits ≤ 32) {num : Nat}
    (small : num < 2 ^ numType.bits) :
    BinaryRoundTrip numType.bits num ((showing old).setEditBinaryNum behind numType num)
      (getEditBinaryNum (bitValues numType.bits)) := by
  generalize text : (Nat.toDigits 2 num).leftpad numType.bits '0' = padded
  have full : padded.length = numType.bits := by
    rw [← text, List.length_leftpad]
    exact Nat.max_eq_left ((Nat.length_toDigits_le_iff (by decide) some32.1).mpr small)
  have writes : (showing old).setEditBinaryNum behind numType num = some (showing padded) := by
    rw [setEditBinaryNum_eq _ behind some32 small, text]
    rfl
  have value : valueOf 2 padded = num := by
    rw [← text, List.leftpad, valueOf_padded, valueOf_toDigits]
  have binary : IsBinary numType.bits padded := by
    refine ⟨?_, ?_, ?_⟩
    · rintro rfl
      exact absurd full some32.1.ne
    · rw [← text]
      exact isBit_of_mem_leftpad fun c member => isBit_of_mem_toDigits member
    · rwa [value]
  refine ⟨writes.trans (by rw [text]), text.symm ▸ full, ?_⟩
  intro dest
  have reads := ((readsBinary_iff _ padded).mpr (not_oneBeyond_of_length full)).accepts dest binary
  rwa [writes, Option.bind_some, value.symm]

/-- Every number that the width has is written in full and read back, whatever stood there and
whatever is left in the buffer. -/
theorem getEditBinaryNum_setEditBinaryNum (old : List Char) (behind : Nat → Char) :
    (∀ num < 2 ^ 16, BinaryRoundTrip 16 num
        ((showing old).setEditBinaryNum behind IntegralType.u16 num) getEditBinaryNumU16) ∧
      ∀ num < 2 ^ 32, BinaryRoundTrip 32 num
        ((showing old).setEditBinaryNum behind IntegralType.u32 num) getEditBinaryNumU32 := by
  rw [getEditBinaryNumU16, getEditBinaryNumU32, u16BitValues_eq, u32BitValues_eq]
  refine ⟨fun num small => ?_, fun num small => ?_⟩
  · exact @binaryRoundTrip old behind IntegralType.u16 (by decide) num small
  · exact @binaryRoundTrip old behind IntegralType.u32 (by decide) num small

theorem getEditBinaryNum_setEditBinaryNum_five :
    BinaryRoundTrip 16 5 ((showing []).setEditBinaryNum (fun _ => 'x') IntegralType.u16 5)
        getEditBinaryNumU16 ∧
      BinaryRoundTrip 32 5 ((showing []).setEditBinaryNum (fun _ => 'x') IntegralType.u32 5)
        getEditBinaryNumU32 :=
  have both := getEditBinaryNum_setEditBinaryNum [] fun _ => 'x'
  ⟨both.1 5 (by decide), both.2 5 (by decide)⟩

end EditControl

end LeanMiniViews
