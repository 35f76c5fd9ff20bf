/-!
The conversions of ICU between UTF-16 and UTF-8, for a source whose length is given. Code points,
units and bytes are numbers while they are computed with; `uint8_t` and `UChar` take their lowest
bits. The source is what is left to be read and `Target` what was written, with the number of
places left. The counts of substitutions are left out: no caller reads them.
-/

namespace LeanMiniViews.Icu

/-- The first two are error codes, for which nothing else is reported. The third is an access
outside of a buffer, and the last a length that is no `int32_t`. -/
inductive Failure where
  | illegalArgument
  | invalidCharFound
  | outside
  | overflow
deriving DecidableEq

inductive ErrorCode where
  | zeroError
  | stringNotTerminatedWarning
  | bufferOverflowError
deriving DecidableEq

structure Conversion (Unit : Type) where
  buffer : List Unit
  destLength : Nat
  errorCode : ErrorCode
deriving DecidableEq

structure Target (Unit : Type) where
  written : List Unit
  room : Nat
deriving DecidableEq

/-- `*pDest++ = …`, which does not look for the limit. -/
def Target.put {Unit : Type} (target : Target Unit) (units : List Unit) :
    Except Failure (Target Unit) :=
  if units.length ≤ target.room then
    .ok ⟨target.written ++ units, target.room - units.length⟩
  else .error .outside

/-! `ustring.cpp`. -/

/-- `u_terminateChars` and `u_terminateUChars`, where no code was set before. -/
def terminate (destCapacity length : Nat) : ErrorCode :=
  if length < destCapacity then .zeroError
  else if length = destCapacity then .stringNotTerminatedWarning
  else .bufferOverflowError

theorem terminate_eq_notTerminated_iff (destCapacity length : Nat) :
    terminate destCapacity length = .stringNotTerminatedWarning ↔ length = destCapacity := by
  unfold terminate
  repeat' split
  all_goals simp only [reduceCtorEq, false_iff, true_iff]
  all_goals omega

theorem terminate_eq_overflow_iff (destCapacity length : Nat) :
    terminate destCapacity length = .bufferOverflowError ↔ destCapacity < length := by
  unfold terminate
  repeat' split
  all_goals simp only [reduceCtorEq, false_iff, true_iff]
  all_goals omega

/-- The counts of a conversion only grow, so that the last one tells of every overflow. -/
def finish {Unit : Type} (destCapacity : Nat) (written : List Unit) (reqLength : Nat) :
    Except Failure (Conversion Unit) :=
  if reqLength < 2147483648 then .ok ⟨written, reqLength, terminate destCapacity reqLength⟩
  else .error .overflow

/-! `utf.h`, `utf16.h` and `utf8.h`. -/

def isSurrogate (c : Nat) : Bool := c &&& 0xfffff800 == 0xd800

def isSurrogateLead (c : Nat) : Bool := c &&& 0x400 == 0

def isTrail (c : Nat) : Bool := c &&& 0xfffffc00 == 0xdc00

def surrogateOffset : Nat := (0xd800 <<< 10) + 0xdc00 - 0x10000

def getSupplementary (lead trail : Nat) : Nat := (lead <<< 10) + trail - surrogateOffset

def lead (supplementary : Nat) : UInt16 := UInt16.ofNat ((supplementary >>> 10) + 0xd7c0)

def trail (supplementary : Nat) : UInt16 := UInt16.ofNat ((supplementary &&& 0x3ff) ||| 0xdc00)

def length8 (c : Nat) : Nat :=
  if c ≤ 0x7f then 1
  else if c ≤ 0x7ff then 2
  else if c ≤ 0xd7ff then 3
  else if c ≤ 0xdfff ∨ c > 0x10ffff then 0
  else if c ≤ 0xffff then 3
  else 4

def length16 (c : Nat) : Nat := if c ≤ 0xffff then 1 else 2

def isSingle (c : Nat) : Bool := c &&& 0x80 == 0

def lead3T1Bits : List Nat :=
  [0x20, 0x30, 0x30, 0x30, 0x30, 0x30, 0x30, 0x30, 0x30, 0x30, 0x30, 0x30, 0x30, 0x10, 0x30, 0x30]

def isValidLead3AndT1 (lead t1 : Nat) : Bool :=
  lead3T1Bits.getD (lead &&& 0xf) 0 &&& 1 <<< (t1 >>> 5) != 0

def lead4T1Bits : List Nat :=
  [0x00, 0x00, 0x00, 0x00, 0x00, 0x00, 0x00, 0x00, 0x1E, 0x0F, 0x0F, 0x0F, 0x00, 0x00, 0x00, 0x00]

def isValidLead4AndT1 (lead t1 : Nat) : Bool :=
  lead4T1Bits.getD (t1 >>> 4) 0 &&& 1 <<< (lead &&& 7) != 0

def trailBits (byte : UInt8) : Option Nat :=
  let t := (byte - 0x80).toNat
  if t ≤ 0x3f then some t else none

/-! From UTF-16. -/

def appendUTF8 (c : Nat) : List UInt8 :=
  if c ≤ 0x7f then [UInt8.ofNat c]
  else if c ≤ 0x7ff then [UInt8.ofNat (c >>> 6 ||| 0xc0), UInt8.ofNat ((c &&& 0x3f) ||| 0x80)]
  else if c ≤ 0xffff then
    [UInt8.ofNat (c >>> 12 ||| 0xe0), UInt8.ofNat ((c >>> 6 &&& 0x3f) ||| 0x80),
      UInt8.ofNat ((c &&& 0x3f) ||| 0x80)]
  else
    [UInt8.ofNat (c >>> 18 ||| 0xf0), UInt8.ofNat ((c >>> 12 &&& 0x3f) ||| 0x80),
      UInt8.ofNat ((c >>> 6 &&& 0x3f) ||| 0x80), UInt8.ofNat ((c &&& 0x3f) ||| 0x80)]

/-- `subchar` is missing where it is `U_SENTINEL`. -/
def substitute {Source : Type} (subchar : Option Nat) (rest : List Source) :
    Except Failure (Nat × List Source) :=
  match subchar with
  | some c => .ok (c, rest)
  | none => .error .invalidCharFound

def readUTF16 (subchar : Option Nat) (unit : UInt16) (rest : List UInt16) :
    Except Failure (Nat × List UInt16) :=
  let ch := unit.toNat
  if ch ≤ 0xd7ff ∨ ch ≥ 0xe000 then .ok (ch, rest)
  else
    match rest with
    | ch2 :: later =>
        if isSurrogateLead ch && isTrail ch2.toNat then
          .ok (getSupplementary ch ch2.toNat, later)
        else substitute subchar rest
    | [] => substitute subchar rest

/-- The inner part of the loop that looks for no limit. A surrogate counts twice, and the unit
after a lead surrogate is read whether there is one or not. -/
def toUTF8Unchecked (subchar : Option Nat) :
    Nat → List UInt16 → Target UInt8 → Except Failure (List UInt16 × Target UInt8)
  | 0, source, target => .ok (source, target)
  | _ + 1, [], _ => .error .outside
  | count + 1, unit :: rest, target =>
      let ch := unit.toNat
      if ch ≤ 0xd7ff ∨ ch ≥ 0xe000 then do
        toUTF8Unchecked subchar count rest (← target.put (appendUTF8 ch))
      else
        match count with
        | 0 => .ok (unit :: rest, target)
        | count + 1 =>
            if isSurrogateLead ch && rest.isEmpty then .error .outside
            else do
              let read ← readUTF16 subchar unit rest
              toUTF8Unchecked subchar count read.2 (← target.put (appendUTF8 read.1))

/-- Every round takes a unit at least, so there are no more rounds than units. The loops below
count their rounds as well. -/
def toUTF8Faster (subchar : Option Nat) :
    Nat → List UInt16 → Target UInt8 → Except Failure (List UInt16 × Target UInt8)
  | 0, source, target => .ok (source, target)
  | rounds + 1, source, target =>
      let count := min (target.room / 3) source.length
      if count < 3 then .ok (source, target)
      else do
        let reached ← toUTF8Unchecked subchar count source target
        toUTF8Faster subchar rounds reached.1 reached.2

/-- `reqLength` is what did not fit. -/
structure Checked (Source Unit : Type) where
  source : List Source
  target : Target Unit
  reqLength : Nat

def toUTF8Checked (subchar : Option Nat) :
    Nat → List UInt16 → Target UInt8 → Except Failure (Checked UInt16 UInt8)
  | 0, source, target => .ok ⟨source, target, 0⟩
  | _ + 1, [], target => .ok ⟨[], target, 0⟩
  | rounds + 1, unit :: rest, target => do
      let read ← readUTF16 subchar unit rest
      let length := length8 read.1
      if target.room ≥ length then
        toUTF8Checked subchar rounds read.2 (← target.put (appendUTF8 read.1))
      else return ⟨read.2, target, length⟩

def toUTF8Preflight (subchar : Option Nat) : Nat → List UInt16 → Nat → Except Failure Nat
  | 0, _, reqLength => .ok reqLength
  | _ + 1, [], reqLength => .ok reqLength
  | rounds + 1, unit :: rest, reqLength => do
      let read ← readUTF16 subchar unit rest
      toUTF8Preflight subchar rounds read.2 (reqLength + length8 read.1)

def legalSubchar (subchar : Option Nat) : Bool :=
  subchar.all fun c => c ≤ 0x10ffff && !isSurrogate c

def strToUTF8WithSub (subchar : Option Nat) (destCapacity : Nat) (source : List UInt16) :
    Except Failure (Conversion UInt8) :=
  if legalSubchar subchar then do
    let faster ← toUTF8Faster subchar source.length source ⟨[], destCapacity⟩
    let checked ← toUTF8Checked subchar faster.1.length faster.1 faster.2
    let reqLength ←
      toUTF8Preflight subchar checked.source.length checked.source checked.reqLength
    finish destCapacity checked.target.written (reqLength + checked.target.written.length)
  else .error .illegalArgument

def strToUTF8 (destCapacity : Nat) (source : List UInt16) : Except Failure (Conversion UInt8) :=
  strToUTF8WithSub none destCapacity source

/-! From UTF-8. -/

/-- The sequences that the loops read without a call, for the byte `c` and those after it. -/
def inlineNext (c : UInt8) (rest : List UInt8) : Option (Nat × List UInt8) :=
  let lead := c.toNat
  if isSingle lead then some (lead, rest)
  else if 0xe0 ≤ lead ∧ lead < 0xf0 then
    match rest with
    | t1 :: t2 :: later =>
        if isValidLead3AndT1 lead t1.toNat then
          (trailBits t2).map fun t2 =>
            ((lead &&& 0xf) <<< 12 ||| (t1.toNat &&& 0x3f) <<< 6 ||| t2, later)
        else none
    | _ => none
  else if lead < 0xe0 ∧ lead ≥ 0xc2 then
    match rest with
    | t1 :: later => (trailBits t1).map fun t1 => ((lead &&& 0x1f) <<< 6 ||| t1, later)
    | [] => none
  else none

/-- `utf8_nextCharSafeBody` where `strict` is `-1`: no code point is an error, after which the
next one is looked for in the rest. -/
def nextCharSafeBody (c : UInt8) (rest : List UInt8) : Option Nat × List UInt8 :=
  let lead := c.toNat
  match rest with
  | [] => (none, [])
  | t1 :: afterFirst =>
      if lead > 0xf4 then (none, rest)
      else if lead ≥ 0xf0 then
        if isValidLead4AndT1 (lead &&& 7) t1.toNat then
          match afterFirst with
          | [] => (none, [])
          | t2 :: afterSecond =>
              match trailBits t2, afterSecond with
              | none, _ => (none, afterFirst)
              | some _, [] => (none, [])
              | some t2, t3 :: later =>
                  match trailBits t3 with
                  | some t3 =>
                      let high := (lead &&& 7) <<< 18 ||| (t1.toNat &&& 0x3f) <<< 12
                      (some (high ||| t2 <<< 6 ||| t3), later)
                  | none => (none, afterSecond)
        else (none, rest)
      else if lead ≥ 0xe0 then
        if isValidLead3AndT1 (lead &&& 0xf) t1.toNat then
          match afterFirst with
          | [] => (none, [])
          | t2 :: later =>
              match trailBits t2 with
              | some t2 =>
                  (some ((lead &&& 0xf) <<< 12 ||| (t1.toNat &&& 0x3f) <<< 6 ||| t2), later)
              | none => (none, afterFirst)
        else (none, rest)
      else if lead ≥ 0xc2 then
        match trailBits t1 with
        | some t1 => (some ((lead - 0xc0) <<< 6 ||| t1), afterFirst)
        | none => (none, rest)
      else (none, rest)

def readUTF8 (subchar : Option Nat) (c : UInt8) (rest : List UInt8) :
    Except Failure (Nat × List UInt8) :=
  match inlineNext c rest with
  | some found => .ok found
  | none =>
      match nextCharSafeBody c rest with
      | (some found, later) => .ok (found, later)
      | (none, later) => substitute subchar later

def appendUTF16 (c : Nat) : List UInt16 :=
  if c ≤ 0xffff then [UInt16.ofNat c] else [lead c, trail c]

def fromUTF8Unchecked (subchar : Option Nat) :
    Nat → List UInt8 → Target UInt16 → Except Failure (List UInt8 × Target UInt16)
  | 0, source, target => .ok (source, target)
  | _ + 1, [], _ => .error .outside
  | count + 1, c :: rest, target =>
      -- twice where up to four bytes may be read, or two units written
      if (inlineNext c rest).isNone && (c.toNat ≥ 0xf0 || subchar.any fun c => c > 0xffff) then
        match count with
        | 0 => .ok (c :: rest, target)
        | count + 1 => do
            let read ← readUTF8 subchar c rest
            fromUTF8Unchecked subchar count read.2 (← target.put (appendUTF16 read.1))
      else do
        let read ← readUTF8 subchar c rest
        fromUTF8Unchecked subchar count read.2 (← target.put (appendUTF16 read.1))

def fromUTF8Faster (subchar : Option Nat) :
    Nat → List UInt8 → Target UInt16 → Except Failure (List UInt8 × Target UInt16)
  | 0, source, target => .ok (source, target)
  | rounds + 1, source, target =>
      let count := min target.room (source.length / 3)
      if count < 3 then .ok (source, target)
      else do
        let reached ← fromUTF8Unchecked subchar count source target
        fromUTF8Faster subchar rounds reached.1 reached.2

def fromUTF8Checked (subchar : Option Nat) :
    Nat → List UInt8 → Target UInt16 → Except Failure (Checked UInt8 UInt16)
  | 0, source, target => .ok ⟨source, target, 0⟩
  | _ + 1, [], target => .ok ⟨[], target, 0⟩
  | rounds + 1, c :: rest, target =>
      if target.room = 0 then .ok ⟨c :: rest, target, 0⟩
      else do
        let read ← readUTF8 subchar c rest
        if read.1 ≤ 0xffff then
          fromUTF8Checked subchar rounds read.2 (← target.put [UInt16.ofNat read.1])
        else
          let led ← target.put [lead read.1]
          if led.room > 0 then
            fromUTF8Checked subchar rounds read.2 (← led.put [trail read.1])
          else return ⟨read.2, led, 1⟩

def fromUTF8Preflight (subchar : Option Nat) : Nat → List UInt8 → Nat → Except Failure Nat
  | 0, _, reqLength => .ok reqLength
  | _ + 1, [], reqLength => .ok reqLength
  | rounds + 1, c :: rest, reqLength => do
      let read ← readUTF8 subchar c rest
      fromUTF8Preflight subchar rounds read.2 (reqLength + length16 read.1)

def strFromUTF8WithSub (subchar : Option Nat) (destCapacity : Nat) (source : List UInt8) :
    Except Failure (Conversion UInt16) :=
  if legalSubchar subchar then do
    let faster ← fromUTF8Faster subchar source.length source ⟨[], destCapacity⟩
    let checked ← fromUTF8Checked subchar faster.1.length faster.1 faster.2
    let reqLength ←
      fromUTF8Preflight subchar checked.source.length checked.source checked.reqLength
    finish destCapacity checked.target.written (reqLength + checked.target.written.length)
  else .error .illegalArgument

end LeanMiniViews.Icu
