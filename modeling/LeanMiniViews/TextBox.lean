import LeanMiniViews.HexText
import LeanMiniViews.WindowText

/-!
The window behind an `EditControl`. Its text is code units, which are converted from UTF-8 and to
it; a text of `EditControl` is the bytes of that form, one character each. The window is taken to
report the length that its text has.
-/

namespace LeanMiniViews

structure TextBox where
  units : List UInt16
deriving DecidableEq, Repr

namespace TextBox

open Unicode

def bytesOf (text : List Char) : List UInt8 := text.map fun c => UInt8.ofNat c.toNat

def textOf (bytes : List UInt8) : List Char := bytes.map fun byte => Char.ofNat byte.toNat

/-- `SetWindowText` takes the units up to the terminator. There is no result where the conversion
has none. -/
def setWinText (newText : List Char) : Option TextBox :=
  (Icux.toUtf16 (bytesOf newText)).map fun units => ⟨units.takeWhile (· ≠ 0)⟩

def getWinText (box : TextBox) (memory : Nat → UInt16) : Option (Option (List Char)) :=
  (WindowText.getWinText box.units.length box.units memory).map fun text => text.map textOf

/-- The control as its member functions find it. -/
def control (box : TextBox) (memory : Nat → UInt16) : Option EditControl :=
  (box.getWinText memory).map fun text =>
    ⟨text.getD (box.units.map fun _ => Buffers.nul), text.isSome⟩

def setHexByteString (heap : Nat → Char) (bytes : List UInt8) (numBytes : Nat) :
    Option (Bool × TextBox) :=
  ((EditControl.showing []).setHexByteString heap bytes numBytes).bind fun written =>
    (setWinText written.2.text).map fun box => (written.1, box)

def getHexByteString (box : TextBox) (memory : Nat → UInt16) (dest : List UInt8)
    (destLength : Nat) : Option (Bool × List UInt8) :=
  (box.control memory).bind fun control => control.getHexByteString dest destLength

/-! The text that is read. -/

theorem control_of_short {characters : List Char} (memory : Nat → UInt16)
    (short : (Unicode.toUtf16 characters).length < 2 ^ 29) :
    control ⟨Unicode.toUtf16 characters⟩ memory =
      some (.showing (textOf (Unicode.toUtf8 characters))) := by
  cases characters with
  | nil => rfl
  | cons c rest =>
      have nonempty : Unicode.toUtf16 (c :: rest) ≠ [] := toUtf16_cons_ne_nil c rest
      rw [control, getWinText, WindowText.getWinText,
        (WindowText.readText_iff memory nonempty (Nat.le_refl _) (by omega)).mpr ⟨rfl, short⟩]
      rfl

theorem control_of_long {characters : List Char} (memory : Nat → UInt16)
    (long : 2 ^ 29 ≤ (Unicode.toUtf16 characters).length)
    (counted : (Unicode.toUtf16 characters).length < 2147483647) :
    control ⟨Unicode.toUtf16 characters⟩ memory = none := by
  have nonempty : Unicode.toUtf16 characters ≠ [] := List.ne_nil_of_length_pos (by omega)
  rw [control, getWinText, WindowText.getWinText,
    WindowText.readText_of_exact memory nonempty counted,
    Icux.toUtf8_of_long long (by omega)]
  rfl

/-! Texts without other characters than those of ASCII. -/

def IsAscii (text : List Char) : Prop := ∀ c ∈ text, 0 < c.toNat ∧ c.toNat < 128

theorem utf8_ascii {c : Char} (ascii : c.toNat < 128) : utf8 c = [UInt8.ofNat c.toNat] :=
  if_pos (Nat.le_of_lt_succ ascii)

theorem utf16_ascii {c : Char} (ascii : c.toNat < 128) : utf16 c = [UInt16.ofNat c.toNat] :=
  if_pos (by omega)

theorem toUtf8_ascii {text : List Char} (ascii : IsAscii text) :
    Unicode.toUtf8 text = bytesOf text := by
  induction text with
  | nil => rfl
  | cons c rest ih =>
      obtain ⟨here, later⟩ := List.forall_mem_cons.mp ascii
      rw [Unicode.toUtf8, List.flatMap_cons, utf8_ascii here.2]
      exact congrArg (List.cons _) (ih later)

theorem toUtf16_ascii {text : List Char} (ascii : IsAscii text) :
    Unicode.toUtf16 text = text.map fun c => UInt16.ofNat c.toNat := by
  induction text with
  | nil => rfl
  | cons c rest ih =>
      obtain ⟨here, later⟩ := List.forall_mem_cons.mp ascii
      rw [Unicode.toUtf16, List.flatMap_cons, utf16_ascii here.2]
      exact congrArg (List.cons _) (ih later)

theorem textOf_bytesOf {text : List Char} (ascii : IsAscii text) :
    textOf (bytesOf text) = text := by
  have same (c : Char) (member : c ∈ text) : Char.ofNat (UInt8.ofNat c.toNat).toNat = c := by
    have small := (ascii c member).2
    rw [UInt8.toNat_ofNat_of_lt' (by unfold UInt8.size; omega), Char.ofNat_toNat]
  rw [textOf, bytesOf, List.map_map]
  exact (List.map_congr_left same).trans (List.map_id' text)

theorem setWinText_ascii {text : List Char} (ascii : IsAscii text) (short : text.length < 2 ^ 30) :
    setWinText text = some ⟨Unicode.toUtf16 text⟩ := by
  have bytes : (Unicode.toUtf8 text).length < 2 ^ 30 := by
    rw [toUtf8_ascii ascii, bytesOf, List.length_map]
    exact short
  have whole : (Unicode.toUtf16 text).takeWhile (· ≠ 0) = Unicode.toUtf16 text := by
    refine List.takeWhile_eq_self_iff.mpr fun unit member => ?_
    rw [toUtf16_ascii ascii, List.mem_map] at member
    obtain ⟨c, used, rfl⟩ := member
    obtain ⟨positive, small⟩ := ascii c used
    have terminates : UInt16.ofNat c.toNat ≠ 0 := by
      rw [ne_eq, ← UInt16.toNat_inj, UInt16.toNat_ofNat_of_lt' (by unfold UInt16.size; omega)]
      exact Nat.ne_of_gt positive
    simpa using terminates
  rw [setWinText, ← toUtf8_ascii ascii, Icux.toUtf16_toUtf8 bytes, Option.map_some, whole]

/-- What is written is read: the text of `EditControl` is the one of the window where it is short
enough to be converted. -/
theorem control_setWinText {text : List Char} (ascii : IsAscii text)
    (short : text.length < 2 ^ 29) (memory : Nat → UInt16) :
    ((setWinText text).bind fun box => box.control memory) = some (.showing text) := by
  have counted : (Unicode.toUtf16 text).length < 2 ^ 29 := by
    rw [toUtf16_ascii ascii, List.length_map]
    exact short
  rw [setWinText_ascii ascii (by omega), Option.bind_some, control_of_short memory counted,
    toUtf8_ascii ascii, textOf_bytesOf ascii]

/-! Bytes in hexadecimal. -/

theorem hexText_ascii (bytes : List UInt8) : IsAscii (EditControl.hexText bytes) := by
  have digit : ∀ value < 16, 0 < (EditControl.hexDigit value).toNat ∧
      (EditControl.hexDigit value).toNat < 128 := by decide
  intro c member
  obtain ⟨byte, -, written⟩ := List.mem_flatMap.mp member
  have bound := byte.toNat_lt
  simp only [List.mem_cons, List.not_mem_nil, or_false] at written
  rcases written with rfl | rfl
  · exact digit _ (by omega)
  · exact digit _ (by omega)

/-- The text has two characters for each byte, and is read back: all of it, the first bytes of
it, or all of it and zeros. -/
def HexRoundTrip (heap : Nat → Char) (memory : Nat → UInt16) (bytes : List UInt8) : Prop :=
  ∃ box, setHexByteString heap bytes bytes.length = some (true, box) ∧
    box.units.length = 2 * bytes.length ∧
    ∀ (dest : List UInt8) (destLength : Nat), destLength ≤ dest.length →
      box.getHexByteString memory dest destLength =
        some (true, bytes.take destLength ++
          List.replicate (destLength - bytes.length) 0 ++ dest.drop destLength)

/-- The length is too long to be doubled, or negative as an `int32_t`. -/
theorem setWinText_of_long {text : List Char} (long : 2 ^ 30 ≤ text.length)
    (counted : text.length < 4294967296) : setWinText text = none := by
  have length : (bytesOf text).length = text.length := List.length_map _
  have unfit : ¬ (0 ≤ toLong text.length ∧ toLong text.length * 2 < 2147483647) := by
    unfold toLong
    split <;> omega
  rw [setWinText, Icux.toUtf16, length, Icux.bufferSize_eq (by decide), if_neg unfit]
  rfl

section HexRoundTrip

variable (heap : Nat → Char) (memory : Nat → UInt16) {bytes : List UInt8}

theorem hexRoundTrip_of_short (short : 2 * bytes.length < 2 ^ 29) :
    HexRoundTrip heap memory bytes := by
  have ascii := hexText_ascii bytes
  have length := EditControl.hexText_length bytes
  have written := setWinText_ascii ascii (by omega)
  have read := control_setWinText ascii (by omega) memory
  rw [written, Option.bind_some] at read
  refine ⟨⟨Unicode.toUtf16 (EditControl.hexText bytes)⟩, ?_, ?_, ?_⟩
  · rw [setHexByteString, EditControl.setHexByteString_showing [] heap (by omega),
      Option.bind_some]
    exact congrArg (Option.map fun box => (true, box)) written
  · simp only [toUtf16_ascii ascii, List.length_map, length]
  · intro dest destLength room
    rw [getHexByteString, read, Option.bind_some]
    exact EditControl.getHexByteString_hexText bytes room

theorem not_hexRoundTrip_of_long (long : 2 ^ 29 ≤ 2 * bytes.length)
    (fits : 2 * bytes.length + 1 < 4294967296) : ¬ HexRoundTrip heap memory bytes := by
  rintro ⟨box, set, -, readBack⟩
  have ascii := hexText_ascii bytes
  have length := EditControl.hexText_length bytes
  rw [setHexByteString, EditControl.setHexByteString_showing [] heap fits,
    Option.bind_some] at set
  by_cases converts : 2 * bytes.length < 2 ^ 30
  · have written := setWinText_ascii ascii (by omega)
    have units : (Unicode.toUtf16 (EditControl.hexText bytes)).length = 2 * bytes.length := by
      rw [toUtf16_ascii ascii, List.length_map, length]
    obtain rfl : ⟨Unicode.toUtf16 (EditControl.hexText bytes)⟩ = box := by
      have same : some (true, ⟨Unicode.toUtf16 (EditControl.hexText bytes)⟩) = some (true, box) :=
        (congrArg (Option.map fun box => (true, box)) written).symm.trans set
      exact congrArg Prod.snd (Option.some.inj same)
    have returned := readBack [] 0 (Nat.le_refl _)
    rw [getHexByteString, control_of_long memory (by omega) (by omega)] at returned
    cases returned
  · have failed : setWinText (EditControl.hexText bytes) = none :=
      setWinText_of_long (by omega) (by omega)
    have none := (congrArg (Option.map fun box => (true, box)) failed).symm.trans set
    cases none

/-- The bytes come back exactly if both conversions find room for their buffers. -/
theorem hexRoundTrip_iff (fits : 2 * bytes.length + 1 < 4294967296) :
    HexRoundTrip heap memory bytes ↔ 2 * bytes.length < 2 ^ 29 := by
  constructor
  · intro returned
    by_contra long
    exact not_hexRoundTrip_of_long heap memory (by omega) fits returned
  · exact hexRoundTrip_of_short heap memory

end HexRoundTrip

theorem hexRoundTrip_iff_two :
    HexRoundTrip (fun _ => 'x') (fun _ => 0xcdcd) [0xAB, 0x07] ↔ 2 * [0xAB, 0x07].length < 2 ^ 29 :=
  hexRoundTrip_iff _ _ (by decide)

/-- 2^29 bytes, whose text `SetText` cannot convert. -/
theorem hexRoundTrip_fails_long :
    ¬ ∀ (heap : Nat → Char) (memory : Nat → UInt16) (bytes : List UInt8),
      2 * bytes.length + 1 < 4294967296 → HexRoundTrip heap memory bytes := by
  intro claim
  have length : (List.replicate 536870912 (0 : UInt8)).length = 536870912 := List.length_replicate
  have returned := claim (fun _ => 'x') (fun _ => 0) (List.replicate 536870912 0) (by omega)
  exact not_hexRoundTrip_of_long _ _ (by omega) (by omega) returned

end TextBox

end LeanMiniViews
