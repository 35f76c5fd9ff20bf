import LeanMiniViews.Buffers
import LeanMiniViews.Strtol

/-!
`EditControl`: the text of a control, and what is read from it and written to it as a number, in
binary and in hexadecimal. A text is its bytes, one character each. The window procedure, the
buddy and the selection are left out.
-/

namespace LeanMiniViews

/-- A text that is not empty may fail to be `readable`. Texts are short enough here to be converted
for the window and back. -/
structure EditControl where
  text : List Char
  readable : Bool
deriving DecidableEq, Repr

/-- An integral type with values among those of `long long`. -/
structure IntegralType where
  bits : Nat
  isSigned : Bool
  narrow : if isSigned then 0 < bits ∧ bits ≤ 64 else bits < 64

namespace IntegralType

def u8 : IntegralType := ⟨8, false, by decide⟩

def u16 : IntegralType := ⟨16, false, by decide⟩

def u32 : IntegralType := ⟨32, false, by decide⟩

def int : IntegralType := ⟨32, true, by decide⟩

def Fits (type : IntegralType) (value : Int) : Prop :=
  if type.isSigned then -(2 ^ (type.bits - 1)) ≤ value ∧ value < 2 ^ (type.bits - 1)
  else 0 ≤ value ∧ value < 2 ^ type.bits

instance (type : IntegralType) (value : Int) : Decidable (type.Fits value) :=
  inferInstanceAs (Decidable (ite _ _ _))

/-- The conversion to the type, which drops the bits it does not have. -/
def cast (type : IntegralType) (value : Int) : Int :=
  if type.isSigned then value.bmod (2 ^ type.bits) else value % 2 ^ type.bits

end IntegralType

namespace EditControl

def showing (text : List Char) : EditControl := ⟨text, true⟩

def getWinText (control : EditControl) : Option (List Char) :=
  if control.text = [] then some []
  else if control.readable then some control.text
  else none

def getTextLength (control : EditControl) : Nat := control.text.length

def setText (control : EditControl) (newText : List Char) : EditControl :=
  { control with text := newText }

/-! Numbers. -/

/-- The answer, and `dest` after the call. -/
def getEditNum (control : EditControl) (numType : IntegralType) (dest : Int) : Bool × Int :=
  match control.getWinText with
  | some text =>
      if text.length > 0 then
        let temp := Strtol.strtoll 0 text
        if temp.value ≠ 0 then (true, numType.cast temp.value)
        else if !temp.rangeError && temp.rest.isEmpty then (true, 0)
        else (false, dest)
      else (false, dest)
  | none => (false, dest)

/-- The overload with a `std::optional` result. -/
def getEditNumOptional (control : EditControl) (numType : IntegralType) : Option Int :=
  match control.getWinText with
  | some text =>
      if text.length > 0 then
        let temp := Strtol.strtoll 0 text
        if temp.value ≠ 0 then some (numType.cast temp.value)
        else if !temp.rangeError && temp.rest.isEmpty then some 0
        else none
      else none
  | none => none

def setEditNum (control : EditControl) (num : Int) : EditControl :=
  control.setText (Strtol.decimal num)

/-! Binary numbers. -/

def u16BitValues : List Nat :=
  [0x1, 0x2, 0x4, 0x8, 0x10, 0x20, 0x40, 0x80,
    0x100, 0x200, 0x400, 0x800, 0x1000, 0x2000, 0x4000, 0x8000]

def u32BitValues : List Nat :=
  [0x1, 0x2, 0x4, 0x8, 0x10, 0x20, 0x40, 0x80,
    0x100, 0x200, 0x400, 0x800, 0x1000, 0x2000, 0x4000, 0x8000,
    0x10000, 0x20000, 0x40000, 0x80000, 0x100000, 0x200000, 0x400000, 0x800000,
    0x1000000, 0x2000000, 0x4000000, 0x8000000, 0x10000000, 0x20000000, 0x40000000, 0x80000000]

/-- The loop below `i + 1`; at `0` the index has wrapped around. There is no result where the
table or the text is left, and no number where the text is refused. -/
def scanBits (bitValues : List Nat) (text : List Char) : Nat → Nat → Option (Option Nat)
  | 0, temp => some (some temp)
  | i + 1, temp =>
      text[i]?.bind fun c =>
        if c = '1' then
          bitValues[text.length - 1 - i]?.bind fun bit => scanBits bitValues text i (temp ||| bit)
        else if c ≠ '0' then some none
        else scanBits bitValues text i temp

def getEditBinaryNum (bitValues : List Nat) (control : EditControl) (dest : Nat) :
    Option (Bool × Nat) :=
  match control.getWinText with
  | some text =>
      if text.length > 0 then
        (scanBits bitValues text text.length 0).map fun number =>
          number.elim (false, dest) fun temp => (true, temp)
      else some (false, dest)
  | none => some (false, dest)

def getEditBinaryNumU16 : EditControl → Nat → Option (Bool × Nat) := getEditBinaryNum u16BitValues

def getEditBinaryNumU32 : EditControl → Nat → Option (Bool × Nat) := getEditBinaryNum u32BitValues

/-- `_itoa_s` in base 2, which takes the value as unsigned. What it leaves `behind` the end of
the text is up to the library, and a buffer that is too short is refused. -/
def itoa_s (behind : Nat → Char) (value : Nat) (buffer : List Char) : Option (List Char) :=
  let written := Nat.toDigits 2 value ++ [Buffers.nul]
  if written.length ≤ buffer.length then
    some (written ++ (List.range (buffer.length - written.length)).map behind)
  else none

def padBinary (numBits length : Nat) (newText : List Char) : Option (List Char) :=
  (Buffers.move newText (numBits - length) 0 length).bind fun moved =>
    (Buffers.fill moved (numBits - length) '0').bind fun filled =>
      Buffers.store filled numBits Buffers.nul

def setEditBinaryNum (control : EditControl) (behind : Nat → Char) (numType : IntegralType)
    (num : Int) : Option EditControl :=
  let temp := (num % 4294967296).toNat
  let numBits := numType.bits
  (itoa_s behind temp (List.replicate 36 Buffers.nul)).bind fun newText =>
    (Buffers.cString newText).bind fun digits =>
      let length := digits.length
      let padded :=
        if length > 0 ∧ length < numBits ∧ numBits < 36 then padBinary numBits length newText
        else some newText
      padded.bind fun newText => (Buffers.cString newText).map fun text => control.setText text

/-! Bytes in hexadecimal. -/

def fourBytes (result : Nat) : List UInt8 :=
  [UInt8.ofNat ((result &&& 0xFF000000) >>> 24), UInt8.ofNat ((result &&& 0x00FF0000) >>> 16),
    UInt8.ofNat ((result &&& 0x0000FF00) >>> 8), UInt8.ofNat (result &&& 0x000000FF)]

/-- All full chunks, through the one buffer `strChunk`. -/
def decodeChunks (text : List Char) :
    Nat → Nat → List Char → List UInt8 → Option (List Char × List UInt8)
  | 0, _, strChunk, dest => some (strChunk, dest)
  | count + 1, chunk, strChunk, dest =>
      (Buffers.copy text strChunk 0 (chunk * 8) 8).bind fun strChunk =>
        (Buffers.cString strChunk).bind fun digits =>
          (Buffers.storeAll dest (chunk * 4) (fourBytes (Strtol.strtoul 16 digits))).bind
            fun dest => decodeChunks text count (chunk + 1) strChunk dest

def remainderBytes (strRemainder result : Nat) : List UInt8 :=
  if strRemainder = 7 then fourBytes result
  else if strRemainder = 5 ∨ strRemainder = 6 then
    [UInt8.ofNat ((result &&& 0xFF0000) >>> 16), UInt8.ofNat ((result &&& 0x00FF00) >>> 8),
      UInt8.ofNat (result &&& 0x0000FF)]
  else if strRemainder = 3 ∨ strRemainder = 4 then
    [UInt8.ofNat ((result &&& 0xFF00) >>> 8), UInt8.ofNat (result &&& 0x00FF)]
  else if strRemainder = 1 ∨ strRemainder = 2 then [UInt8.ofNat result]
  else []

/-- Half a byte is padded with a zero. -/
def endChunk (strLength strRemainder : Nat) (strChunk : List Char) : Option (List Char) :=
  if strLength % 2 = 0 then Buffers.store strChunk strRemainder Buffers.nul
  else
    (Buffers.store strChunk strRemainder '0').bind fun padded =>
      Buffers.store padded (strRemainder + 1) Buffers.nul

def decodeRemainder (text : List Char) (strLength : Nat) (strChunk : List Char)
    (dest : List UInt8) : Option (List UInt8) :=
  let numChunks := strLength / 8
  let strRemainder := strLength % 8
  if strRemainder > 0 then
    (endChunk strLength strRemainder strChunk).bind fun ended =>
      (Buffers.copy text ended 0 (numChunks * 8) strRemainder).bind fun filled =>
        (Buffers.cString filled).bind fun digits =>
          Buffers.storeAll dest (numChunks * 4)
            (remainderBytes strRemainder (Strtol.strtoul 16 digits))
  else some dest

/-- `dest` is the memory from the first byte of the destination on. -/
def getHexByteString (control : EditControl) (dest : List UInt8) (destLength : Nat) :
    Option (Bool × List UInt8) :=
  match control.getWinText with
  | some (first :: rest) =>
      let text := first :: rest
      let strLength := min text.length (destLength * 2)
      (Buffers.fill dest destLength 0).bind fun cleared =>
        (decodeChunks text (strLength / 8) 0 (List.replicate 9 Buffers.nul) cleared).bind
          fun decoded =>
            (decodeRemainder text strLength decoded.1 decoded.2).map fun dest => (true, dest)
  | _ =>
      if control.getTextLength = 0 then
        (Buffers.fill dest destLength 0).map fun dest => (true, dest)
      else some (false, dest)

/-- No case of the switch fails to match, and none leaves a character unwritten. -/
def highDigit (byte : UInt8) : Option Char :=
  match (byte &&& 0xF0).toNat with
  | 0x00 => some '0'
  | 0x10 => some '1'
  | 0x20 => some '2'
  | 0x30 => some '3'
  | 0x40 => some '4'
  | 0x50 => some '5'
  | 0x60 => some '6'
  | 0x70 => some '7'
  | 0x80 => some '8'
  | 0x90 => some '9'
  | 0xA0 => some 'A'
  | 0xB0 => some 'B'
  | 0xC0 => some 'C'
  | 0xD0 => some 'D'
  | 0xE0 => some 'E'
  | 0xF0 => some 'F'
  | _ => none

def lowDigit (byte : UInt8) : Option Char :=
  match (byte &&& 0x0F).toNat with
  | 0x00 => some '0'
  | 0x01 => some '1'
  | 0x02 => some '2'
  | 0x03 => some '3'
  | 0x04 => some '4'
  | 0x05 => some '5'
  | 0x06 => some '6'
  | 0x07 => some '7'
  | 0x08 => some '8'
  | 0x09 => some '9'
  | 0x0A => some 'A'
  | 0x0B => some 'B'
  | 0x0C => some 'C'
  | 0x0D => some 'D'
  | 0x0E => some 'E'
  | 0x0F => some 'F'
  | _ => none

def u32 (value : Nat) : Nat := value % 4294967296

def storeDigit (byteString : List Char) (charPos : Nat) (digit : Option Char) :
    Option (List Char) :=
  digit.elim (some byteString) fun c => Buffers.store byteString charPos c

def encodeBytes (bytes : List UInt8) : Nat → Nat → List Char → Option (List Char)
  | 0, _, byteString => some byteString
  | count + 1, i, byteString =>
      bytes[i]?.bind fun byte =>
        (storeDigit byteString (u32 (i * 2)) (highDigit byte)).bind fun byteString =>
          (storeDigit byteString (u32 (i * 2 + 1)) (lowDigit byte)).bind fun byteString =>
            encodeBytes bytes count (i + 1) byteString

/-- `heap` is what the new array happens to hold. -/
def setHexByteString (control : EditControl) (heap : Nat → Char) (bytes : List UInt8)
    (numBytes : Nat) : Option (Bool × EditControl) :=
  (encodeBytes bytes numBytes 0 ((List.range (numBytes * 2 + 1)).map heap)).bind fun encoded =>
    (Buffers.store encoded (u32 (numBytes * 2)) Buffers.nul).bind fun byteString =>
      (Buffers.cString byteString).map fun text => (true, control.setText text)

end EditControl

end LeanMiniViews
