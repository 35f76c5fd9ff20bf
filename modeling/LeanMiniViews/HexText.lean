import LeanMiniViews.NumberFields

/-!
Bytes as hexadecimal text: `GetHexByteString` takes the text apart in chunks of eight digits and
five kinds of remainder, and `SetHexByteString` writes it nibble by nibble.
-/

namespace LeanMiniViews

/-! Numbers and the bytes they are stored in, the highest first. -/

def bigEndian : Nat → Nat → List UInt8
  | 0, _ => []
  | count + 1, value => UInt8.ofNat (value / 256 ^ count) :: bigEndian count value

theorem ofNat_eq_of_mod {left right : Nat} (same : left % 256 = right % 256) :
    UInt8.ofNat left = UInt8.ofNat right := by
  rw [← UInt8.toNat_inj]
  simpa using same

theorem bigEndian_add (count high value : Nat) :
    bigEndian count (high * 256 ^ count + value) = bigEndian count value := by
  induction count generalizing high with
  | zero => rfl
  | succ count ih =>
      have shifted : high * 256 ^ (count + 1) + value = high * 256 * 256 ^ count + value := by
        rw [Nat.pow_succ]
        ring
      rw [shifted, bigEndian, bigEndian, ih]
      congr 1
      apply ofNat_eq_of_mod
      rw [Nat.add_comm, Nat.add_mul_div_right _ _ (by positivity), Nat.add_mul_mod_self_right]

/-- Two digits for each byte. -/
def pairBytes : List Char → List UInt8
  | hi :: lo :: rest => UInt8.ofNat (16 * Strtol.digitOf hi + Strtol.digitOf lo) :: pairBytes rest
  | _ => []

theorem bigEndian_valueOf {count : Nat} {digits : List Char} (length : digits.length = 2 * count)
    (only : ∀ c ∈ digits, Strtol.isDigit 16 c = true) :
    bigEndian count (Strtol.valueOf 16 digits) = pairBytes digits := by
  induction count generalizing digits with
  | zero =>
      obtain rfl := List.eq_nil_of_length_eq_zero length
      rfl
  | succ count ih =>
      obtain ⟨hi, lo, rest, rfl⟩ : ∃ hi lo rest, digits = hi :: lo :: rest := by
        match digits, length with
        | hi :: lo :: rest, _ => exact ⟨hi, lo, rest, rfl⟩
      have shorter : rest.length = 2 * count := by simpa [Nat.mul_succ] using length
      have later : ∀ c ∈ rest, Strtol.isDigit 16 c = true :=
        fun c member => only c (List.mem_cons_of_mem _ (List.mem_cons_of_mem _ member))
      have small : Strtol.valueOf 16 rest < 256 ^ count := by
        have bound := Strtol.valueOf_lt later
        rwa [shorter, Nat.pow_mul] at bound
      have value : Strtol.valueOf 16 (hi :: lo :: rest) =
          (16 * Strtol.digitOf hi + Strtol.digitOf lo) * 256 ^ count +
            Strtol.valueOf 16 rest := by
        rw [Strtol.valueOf_cons, Strtol.valueOf_cons, List.length_cons, shorter, Nat.pow_succ,
          Nat.pow_mul]
        ring
      rw [value, bigEndian, bigEndian_add, ih shorter later, pairBytes, Nat.add_comm,
        Nat.add_mul_div_right _ _ (by positivity), Nat.div_eq_of_lt small, Nat.zero_add]

namespace EditControl

/-! The masks and shifts. -/

theorem ofNat_lowByte (result : Nat) : UInt8.ofNat (result &&& 255) = UInt8.ofNat result := by
  apply ofNat_eq_of_mod
  rw [Nat.and_two_pow_sub_one_eq_mod _ 8]
  omega

theorem ofNat_masked {result : Nat} (mask shift divisor : Nat) (isMask : mask = 255 <<< shift)
    (isPower : divisor = 2 ^ shift) :
    UInt8.ofNat ((result &&& mask) >>> shift) = UInt8.ofNat (result / divisor) := by
  rw [isMask, isPower, Nat.shiftRight_and_distrib, Nat.shiftLeft_shiftRight,
    Nat.shiftRight_eq_div_pow, ofNat_lowByte]

theorem fourBytes_eq (result : Nat) : fourBytes result = bigEndian 4 result := by
  simp only [fourBytes, bigEndian, ofNat_lowByte, Nat.pow_zero, Nat.div_one]
  rw [ofNat_masked 0xFF000000 24 (256 ^ 3) rfl rfl,
    ofNat_masked 0xFF0000 16 (256 ^ 2) rfl rfl, ofNat_masked 0xFF00 8 (256 ^ 1) rfl rfl]

theorem threeBytes_eq (result : Nat) :
    [UInt8.ofNat ((result &&& 0xFF0000) >>> 16), UInt8.ofNat ((result &&& 0x00FF00) >>> 8),
      UInt8.ofNat (result &&& 0x0000FF)] = bigEndian 3 result := by
  simp only [bigEndian, ofNat_lowByte, Nat.pow_zero, Nat.div_one]
  rw [ofNat_masked 0xFF0000 16 (256 ^ 2) rfl rfl, ofNat_masked 0xFF00 8 (256 ^ 1) rfl rfl]

theorem twoBytes_eq (result : Nat) :
    [UInt8.ofNat ((result &&& 0xFF00) >>> 8), UInt8.ofNat (result &&& 0x00FF)] =
      bigEndian 2 result := by
  simp only [bigEndian, ofNat_lowByte, Nat.pow_zero, Nat.div_one]
  rw [ofNat_masked 0xFF00 8 (256 ^ 1) rfl rfl]

theorem remainderBytes_eq {strRemainder : Nat} (positive : 0 < strRemainder)
    (small : strRemainder < 8) (result : Nat) :
    remainderBytes strRemainder result = bigEndian ((strRemainder + 1) / 2) result := by
  have cases : strRemainder = 1 ∨ strRemainder = 2 ∨ strRemainder = 3 ∨ strRemainder = 4 ∨
      strRemainder = 5 ∨ strRemainder = 6 ∨ strRemainder = 7 := by omega
  rcases cases with rfl | rfl | rfl | rfl | rfl | rfl | rfl
  · simp [remainderBytes, bigEndian]
  · simp [remainderBytes, bigEndian]
  · exact twoBytes_eq result
  · exact twoBytes_eq result
  · exact threeBytes_eq result
  · exact threeBytes_eq result
  · exact fourBytes_eq result

/-! What a text of digits stands for. -/

def digitAt (text : List Char) (index : Nat) : Nat := text[index]?.elim 0 Strtol.digitOf

/-- A digit beyond the end counts as 0. -/
def hexByte (text : List Char) (index : Nat) : UInt8 :=
  UInt8.ofNat (16 * digitAt text (2 * index) + digitAt text (2 * index + 1))

theorem digitAt_padded (text : List Char) (index : Nat) :
    digitAt (text ++ ['0']) index = digitAt text index := by
  unfold digitAt
  by_cases inside : index < text.length
  · rw [List.getElem?_append_left inside]
  · rw [List.getElem?_eq_none (Nat.le_of_not_lt inside),
      List.getElem?_append_right (Nat.le_of_not_lt inside)]
    cases index - text.length with
    | zero => rfl
    | succ later => rfl

theorem hexByte_padded (text : List Char) (index : Nat) :
    hexByte (text ++ ['0']) index = hexByte text index := by
  rw [hexByte, digitAt_padded, digitAt_padded, hexByte]

theorem hexByte_beyond {text : List Char} {index : Nat} (beyond : text.length ≤ 2 * index) :
    hexByte text index = 0 := by
  simp [hexByte, digitAt, beyond, Nat.le_succ_of_le]

theorem pairBytes_slice {text : List Char} {start count : Nat}
    (inside : 2 * (start + count) ≤ text.length) :
    pairBytes ((text.drop (2 * start)).take (2 * count)) =
      (List.range' start count).map (hexByte text) := by
  induction count generalizing start with
  | zero => rfl
  | succ count ih =>
      have hi : 2 * start < text.length := by omega
      have lo : 2 * start + 1 < text.length := by omega
      have later := ih (show 2 * (start + 1 + count) ≤ text.length by omega)
      rw [List.drop_eq_getElem_cons hi, List.drop_eq_getElem_cons lo, Nat.mul_succ,
        List.take_succ_cons, List.take_succ_cons, pairBytes, List.range'_succ, List.map_cons]
      congr 1
      simp [hexByte, digitAt, hi, lo]

theorem pairBytes_end {text : List Char} {start count : Nat}
    (inside : 2 * start ≤ text.length) (odd : text.length + 1 = 2 * (start + count)) :
    pairBytes (text.drop (2 * start) ++ ['0']) = (List.range' start count).map (hexByte text) := by
  have padded : (text ++ ['0']).length = 2 * (start + count) := by simpa using odd
  have started : (text ++ ['0']).drop (2 * start) = text.drop (2 * start) ++ ['0'] :=
    List.drop_append_of_le_length inside
  have slice := @pairBytes_slice (text ++ ['0']) start count (by omega)
  rw [started, List.take_of_length_le (by simp; omega)] at slice
  rw [slice]
  exact List.map_congr_left fun index _ => hexByte_padded text index

/-! The destination while it is written. -/

/-- The first `done` bytes are decoded, the others up to `destLength` are still zero. -/
def progress (text : List Char) (done destLength : Nat) (outside : List UInt8) : List UInt8 :=
  (List.range done).map (hexByte text) ++ List.replicate (destLength - done) 0 ++ outside

theorem map_range_add (text : List Char) (done count : Nat) :
    (List.range (done + count)).map (hexByte text) =
      (List.range done).map (hexByte text) ++ (List.range' done count).map (hexByte text) := by
  rw [List.range_eq_range', ← List.range'_append_1, List.map_append, List.range_eq_range',
    Nat.zero_add]

theorem storeAll_progress (text : List Char) {done count destLength : Nat}
    (room : done + count ≤ destLength) (outside : List UInt8) :
    Buffers.storeAll (progress text done destLength outside) done
        ((List.range' done count).map (hexByte text)) =
      some (progress text (done + count) destLength outside) := by
  have zeros : List.replicate (destLength - done) (0 : UInt8) =
      List.replicate count 0 ++ List.replicate (destLength - (done + count)) 0 := by
    rw [← List.replicate_add]
    congr 1
    omega
  have stored := Buffers.storeAll_append ((List.range done).map (hexByte text))
    (List.replicate count 0) ((List.range' done count).map (hexByte text))
    (List.replicate (destLength - (done + count)) 0 ++ outside) (by simp)
  simp only [progress, zeros, map_range_add, List.append_assoc] at stored ⊢
  simpa using stored

theorem progress_complete {text : List Char} {done destLength : Nat} (within : done ≤ destLength)
    (complete : done = destLength ∨ text.length ≤ 2 * done) (outside : List UInt8) :
    progress text done destLength outside =
      (List.range destLength).map (hexByte text) ++ outside := by
  have zeros : (List.range' done (destLength - done)).map (hexByte text) =
      List.replicate (destLength - done) 0 := by
    rw [List.eq_replicate_iff]
    refine ⟨by simp, ?_⟩
    intro byte member
    obtain ⟨index, inRange, rfl⟩ := List.mem_map.mp member
    have bounds := List.mem_range'_1.mp inRange
    exact hexByte_beyond (by omega)
  rw [progress, ← zeros, ← map_range_add, Nat.add_sub_cancel' within]

/-! The chunks. -/

/-- The buffer of nine characters, ended after the eighth. -/
def EndsChunk (strChunk : List Char) : Prop :=
  ∃ old : List Char, old.length = 8 ∧ strChunk = old ++ [Buffers.nul]

theorem not_nul_of_digit {text : List Char} (only : ∀ c ∈ text, Strtol.isDigit 16 c = true) :
    Buffers.nul ∉ text := by
  intro member
  exact absurd (only _ member) (by decide)

theorem slice_digits {text : List Char} (only : ∀ c ∈ text, Strtol.isDigit 16 c = true)
    (start count : Nat) : ∀ c ∈ (text.drop start).take count, Strtol.isDigit 16 c = true :=
  fun c member => only c (List.mem_of_mem_drop (List.mem_of_mem_take member))

theorem strtoul_bigEndian {count : Nat} {digits : List Char} (positive : 0 < count)
    (short : count ≤ 4) (length : digits.length = 2 * count)
    (only : ∀ c ∈ digits, Strtol.isDigit 16 c = true) :
    bigEndian count (Strtol.strtoul 16 digits) = pairBytes digits := by
  have nonempty : digits ≠ [] := List.ne_nil_of_length_pos (by omega)
  rw [Strtol.strtoul_sixteen nonempty only (by omega), bigEndian_valueOf length only]

theorem decodeChunks_progress {text : List Char}
    (only : ∀ c ∈ text, Strtol.isDigit 16 c = true) {count chunk destLength : Nat}
    (inText : 8 * (chunk + count) ≤ text.length) (room : 4 * (chunk + count) ≤ destLength)
    {strChunk : List Char} (ends : EndsChunk strChunk) (outside : List UInt8) :
    ∃ last, EndsChunk last ∧
      decodeChunks text count chunk strChunk (progress text (4 * chunk) destLength outside) =
        some (last, progress text (4 * (chunk + count)) destLength outside) := by
  induction count generalizing chunk strChunk with
  | zero => exact ⟨strChunk, ends, rfl⟩
  | succ count ih =>
      obtain ⟨old, eight, rfl⟩ := ends
      let digits := (text.drop (2 * (4 * chunk))).take (2 * 4)
      have length : digits.length = 2 * 4 := by
        rw [List.length_take, List.length_drop]
        omega
      have digitsOnly : ∀ c ∈ digits, Strtol.isDigit 16 c = true := slice_digits only _ _
      have copied := Buffers.copy_front text old [Buffers.nul] eight
        (show 2 * (4 * chunk) + 2 * 4 ≤ text.length by omega)
      have stored := storeAll_progress text (show 4 * chunk + 4 ≤ destLength by omega) outside
      rw [← pairBytes_slice (by omega),
        ← strtoul_bigEndian (by decide) (by decide) length digitsOnly, ← fourBytes_eq] at stored
      obtain ⟨last, lastEnds, decoded⟩ := ih
        (show 8 * (chunk + 1 + count) ≤ text.length by omega) (by omega)
        (⟨digits, length, rfl⟩ : EndsChunk (digits ++ [Buffers.nul]))
      refine ⟨last, lastEnds, ?_⟩
      rw [decodeChunks, show chunk * 8 = 2 * (4 * chunk) by omega, copied, Option.bind_some,
        Buffers.cString_append (not_nul_of_digit digitsOnly), Option.bind_some,
        Nat.mul_comm chunk 4, stored, Option.bind_some, ← Nat.mul_succ, decoded,
        Nat.add_right_comm, Nat.add_assoc]

/-! The remainder. -/

def padding (strLength : Nat) : List Char := if strLength % 2 = 0 then [] else ['0']

theorem endChunk_eq {strChunk : List Char} (nine : strChunk.length = 9) (strLength : Nat)
    {strRemainder : Nat} (small : strRemainder < 8) :
    ∃ old after : List Char, old.length = strRemainder ∧
      endChunk strLength strRemainder strChunk =
        some (old ++ (padding strLength ++ Buffers.nul :: after)) := by
  have inside : strRemainder < strChunk.length := by omega
  have length : (strChunk.take strRemainder).length = strRemainder := by
    rw [List.length_take]
    omega
  unfold endChunk padding
  split
  · exact ⟨_, _, length, Buffers.store_eq inside Buffers.nul⟩
  · obtain ⟨next, after, rest⟩ :=
      List.exists_cons_of_length_pos (show 0 < (strChunk.drop (strRemainder + 1)).length by
        rw [List.length_drop]
        omega)
    have ended := Buffers.store_append (strChunk.take strRemainder ++ ['0']) next Buffers.nul after
    rw [List.length_append, length, List.length_singleton] at ended
    refine ⟨_, after, length, ?_⟩
    rw [Buffers.store_eq inside, Option.bind_some, rest]
    simpa using ended

theorem remainder_digits {text : List Char} (only : ∀ c ∈ text, Strtol.isDigit 16 c = true)
    {strLength : Nat} (inText : strLength ≤ text.length)
    (whole : strLength % 2 = 0 ∨ strLength = text.length) :
    let digits := (text.drop (strLength / 8 * 8)).take (strLength % 8) ++ padding strLength
    let count := (strLength % 8 + 1) / 2
    (∀ c ∈ digits, Strtol.isDigit 16 c = true) ∧ digits.length = 2 * count ∧
      pairBytes digits = (List.range' (4 * (strLength / 8)) count).map (hexByte text) := by
  intro digits count
  have start : strLength / 8 * 8 = 2 * (4 * (strLength / 8)) := by omega
  by_cases even : strLength % 2 = 0
  · have slice : digits = (text.drop (2 * (4 * (strLength / 8)))).take (2 * count) := by
      simp only [digits, padding, if_pos even, List.append_nil, start]
      rw [show strLength % 8 = 2 * count by omega]
    refine ⟨?_, ?_, ?_⟩
    · rw [slice]
      exact slice_digits only _ _
    · rw [slice, List.length_take, List.length_drop]
      omega
    · rw [slice]
      exact pairBytes_slice (by omega)
  · obtain rfl := whole.resolve_left even
    have all : digits = text.drop (2 * (4 * (text.length / 8))) ++ ['0'] := by
      simp only [digits, padding, if_neg even, start]
      rw [List.take_of_length_le (by rw [List.length_drop]; omega)]
    refine ⟨?_, ?_, ?_⟩
    · rw [all]
      intro c member
      rcases List.mem_append.mp member with inText | isZero
      · exact only c (List.mem_of_mem_drop inText)
      · rw [List.mem_singleton.mp isZero]
        rfl
    · rw [all, List.length_append, List.length_drop, List.length_singleton]
      omega
    · rw [all]
      exact pairBytes_end (by omega) (by omega)

theorem decodeRemainder_progress {text : List Char}
    (only : ∀ c ∈ text, Strtol.isDigit 16 c = true) {strLength destLength : Nat}
    (inText : strLength ≤ text.length) (room : strLength ≤ 2 * destLength)
    (whole : strLength % 2 = 0 ∨ strLength = text.length) {strChunk : List Char}
    (nine : strChunk.length = 9) (outside : List UInt8) :
    decodeRemainder text strLength strChunk
        (progress text (4 * (strLength / 8)) destLength outside) =
      some (progress text ((strLength + 1) / 2) destLength outside) := by
  unfold decodeRemainder
  by_cases full : strLength % 8 = 0
  · rw [if_neg (by omega), show (strLength + 1) / 2 = 4 * (strLength / 8) by omega]
  · obtain ⟨old, after, length, ended⟩ :=
      endChunk_eq nine strLength (show strLength % 8 < 8 by omega)
    have copied := Buffers.copy_front text old (padding strLength ++ Buffers.nul :: after) length
      (show strLength / 8 * 8 + strLength % 8 ≤ text.length by omega)
    obtain ⟨digitsOnly, evenLength, pairs⟩ := remainder_digits only inText whole
    have stored := storeAll_progress text
      (show 4 * (strLength / 8) + (strLength % 8 + 1) / 2 ≤ destLength by omega) outside
    rw [← pairs, ← strtoul_bigEndian (by omega) (by omega) evenLength digitsOnly,
      ← remainderBytes_eq (by omega) (by omega)] at stored
    rw [if_pos (by omega), ended, Option.bind_some, copied, Option.bind_some,
      ← List.append_assoc, Buffers.cString_append (not_nul_of_digit digitsOnly), Option.bind_some,
      Nat.mul_comm _ 4, stored]
    congr 2
    omega

theorem getHexByteString_digits {text : List Char}
    (only : ∀ c ∈ text, Strtol.isDigit 16 c = true) {dest : List UInt8} {destLength : Nat}
    (room : destLength ≤ dest.length) :
    (showing text).getHexByteString dest destLength =
      some (true, (List.range destLength).map (hexByte text) ++ dest.drop destLength) := by
  have cleared : Buffers.fill dest destLength 0 =
      some (progress text 0 destLength (dest.drop destLength)) := by
    have filled := Buffers.fill_append (dest.take destLength) (dest.drop destLength) (0 : UInt8)
      (List.length_take_of_le room)
    rwa [List.take_append_drop] at filled
  cases text with
  | nil =>
      have blank := @progress_complete [] 0 destLength (Nat.zero_le _) (Or.inr (by simp))
        (dest.drop destLength)
      simp only [getHexByteString, getWinText_showing]
      rw [if_pos (show (showing []).getTextLength = 0 from rfl), cleared, ← blank]
      rfl
  | cons first rest =>
      let text := first :: rest
      let strLength := min text.length (destLength * 2)
      have inText : strLength ≤ text.length := Nat.min_le_left _ _
      have within : strLength ≤ 2 * destLength := by omega
      have chosen : strLength = text.length ∨ strLength = destLength * 2 := min_choice _ _
      obtain ⟨last, ⟨old, eight, rfl⟩, chunks⟩ :=
        decodeChunks_progress only (show 8 * (0 + strLength / 8) ≤ text.length by omega)
          (show 4 * (0 + strLength / 8) ≤ destLength by omega)
          ⟨List.replicate 8 Buffers.nul, by simp, rfl⟩ (dest.drop destLength)
      rw [Nat.zero_add] at chunks
      have whole : strLength % 2 = 0 ∨ strLength = text.length := by
        rcases chosen with all | cut
        · exact Or.inr all
        · exact Or.inl (by rw [cut]; omega)
      have remainder := decodeRemainder_progress only inText within whole
        (show (old ++ [Buffers.nul]).length = 9 by simp [eight]) (dest.drop destLength)
      have complete := @progress_complete text ((strLength + 1) / 2) destLength (by omega)
        (by omega) (dest.drop destLength)
      rw [complete] at remainder
      simp only [getHexByteString, getWinText_showing, cleared, Option.bind_some]
      change ((decodeChunks text (strLength / 8) 0 (List.replicate 8 Buffers.nul ++ [Buffers.nul])
        (progress text (4 * 0) destLength (dest.drop destLength))).bind fun decoded =>
          (decodeRemainder text strLength decoded.1 decoded.2).map fun dest => (true, dest)) = _
      rw [chunks, Option.bind_some, remainder]
      rfl

theorem digitAt_lt {text : List Char} (only : ∀ c ∈ text, Strtol.isDigit 16 c = true)
    (index : Nat) : digitAt text index < 16 := by
  unfold digitAt
  cases found : text[index]? with
  | none => decide
  | some c => exact Strtol.digitOf_lt (only c (List.mem_of_getElem? found))

theorem hexByte_toNat {text : List Char} (only : ∀ c ∈ text, Strtol.isDigit 16 c = true)
    (index : Nat) :
    (hexByte text index).toNat = 16 * digitAt text (2 * index) + digitAt text (2 * index + 1) := by
  have hi := digitAt_lt only (2 * index)
  have lo := digitAt_lt only (2 * index + 1)
  rw [hexByte, UInt8.toNat_ofNat']
  exact Nat.mod_eq_of_lt (by omega)

/-- Every text of digits, of any length, and any number of bytes asked for: the two digits of
each byte, where one beyond the end of the text is 0. Neither the text nor the destination is
left, and the memory behind the destination stays as it was. -/
theorem getHexByteString_decodes {text : List Char}
    (only : ∀ c ∈ text, Strtol.isDigit 16 c = true) {dest : List UInt8} {destLength : Nat}
    (room : destLength ≤ dest.length) :
    ∃ after, (showing text).getHexByteString dest destLength = some (true, after) ∧
      after.length = dest.length ∧
      (∀ k < destLength, ∃ byte : UInt8, after[k]? = some byte ∧
        byte.toNat = 16 * digitAt text (2 * k) + digitAt text (2 * k + 1)) ∧
      ∀ k, destLength ≤ k → after[k]? = dest[k]? := by
  refine ⟨_, getHexByteString_digits only room, ?_, ?_, ?_⟩
  · rw [List.length_append, List.length_map, List.length_range, List.length_drop]
    omega
  · intro k inside
    refine ⟨hexByte text k, ?_, hexByte_toNat only k⟩
    rw [List.getElem?_append_left (by simpa using inside)]
    simp [inside]
  · intro k beyond
    rw [List.getElem?_append_right (by simpa using beyond), List.getElem?_drop]
    congr 1
    simp only [List.length_map, List.length_range]
    omega

/-- Three digits into three bytes, with a fourth byte behind them. -/
theorem getHexByteString_decodes_padded :
    ∃ after, (showing ['1', 'a', 'F']).getHexByteString [7, 7, 7, 7] 3 = some (true, after) ∧
      after.length = 4 ∧
      (∀ k < 3, ∃ byte : UInt8, after[k]? = some byte ∧
        byte.toNat = 16 * digitAt ['1', 'a', 'F'] (2 * k) + digitAt ['1', 'a', 'F'] (2 * k + 1)) ∧
      ∀ k, 3 ≤ k → after[k]? = [7, 7, 7, 7][k]? :=
  getHexByteString_decodes (List.all_eq_true.mp rfl) (by decide)

example : (showing ['1', 'a', 'F']).getHexByteString [7, 7, 7, 7] 3 =
    some (true, [0x1A, 0xF0, 0, 7]) := by decide

/-! The text that is written. -/

def hexDigits : List Char :=
  ['0', '1', '2', '3', '4', '5', '6', '7', '8', '9', 'A', 'B', 'C', 'D', 'E', 'F']

def hexDigit (value : Nat) : Char := hexDigits.getD value '0'

def hexText (bytes : List UInt8) : List Char :=
  bytes.flatMap fun byte => [hexDigit (byte.toNat / 16), hexDigit (byte.toNat % 16)]

theorem digitValue_hexDigit :
    ∀ value < 16, Strtol.digitValue (hexDigit value) = some value := by decide

theorem highDigit_eq (byte : UInt8) : highDigit byte = some (hexDigit (byte.toNat / 16)) := by
  have quotient : (byte &&& 0xF0).toNat / 2 ^ 4 = byte.toNat / 16 % 2 ^ 4 := by
    rw [UInt8.toNat_and, ← Nat.shiftRight_eq_div_pow, Nat.shiftRight_and_distrib,
      Nat.shiftRight_eq_div_pow]
    exact Nat.and_two_pow_sub_one_eq_mod _ 4
  have rest : (byte &&& 0xF0).toNat % 2 ^ 4 = 0 := by
    rw [UInt8.toNat_and, Nat.and_mod_two_pow]
    exact Nat.and_zero _
  have bound := byte.toNat_lt
  have masked : (byte &&& 0xF0).toNat = 16 * (byte.toNat / 16) := by omega
  have small : byte.toNat / 16 < 16 := by omega
  rw [highDigit, masked]
  generalize byte.toNat / 16 = value at small
  revert value
  decide

theorem lowDigit_eq (byte : UInt8) : lowDigit byte = some (hexDigit (byte.toNat % 16)) := by
  have masked : (byte &&& 0x0F).toNat = byte.toNat % 16 := by
    rw [UInt8.toNat_and]
    exact Nat.and_two_pow_sub_one_eq_mod byte.toNat 4
  have small : byte.toNat % 16 < 16 := Nat.mod_lt _ (by decide)
  rw [lowDigit, masked]
  generalize byte.toNat % 16 = value at small
  revert value
  decide

theorem hexText_length (bytes : List UInt8) : (hexText bytes).length = 2 * bytes.length := by
  induction bytes with
  | nil => rfl
  | cons byte rest ih =>
      rw [hexText, List.flatMap_cons, List.length_append, ← hexText, ih, List.length_cons]
      simp only [List.length_cons, List.length_nil]
      omega

theorem hexText_digits {bytes : List UInt8} :
    ∀ c ∈ hexText bytes, Strtol.isDigit 16 c = true := by
  have digit {value : Nat} (small : value < 16) : Strtol.isDigit 16 (hexDigit value) = true :=
    Strtol.isDigit_iff.mpr ⟨value, digitValue_hexDigit value small, small⟩
  intro c member
  obtain ⟨byte, -, written⟩ := List.mem_flatMap.mp member
  have bound := byte.toNat_lt
  simp only [List.mem_cons, List.not_mem_nil, or_false] at written
  rcases written with rfl | rfl
  · exact digit (by omega)
  · exact digit (by omega)

theorem pairBytes_hexText (bytes : List UInt8) : pairBytes (hexText bytes) = bytes := by
  have digitOf {value : Nat} (small : value < 16) : Strtol.digitOf (hexDigit value) = value := by
    rw [Strtol.digitOf, digitValue_hexDigit value small, Option.getD_some]
  induction bytes with
  | nil => rfl
  | cons byte rest ih =>
      have bound := byte.toNat_lt
      rw [hexText, List.flatMap_cons, ← hexText, List.cons_append, List.cons_append,
        List.nil_append, pairBytes, ih, digitOf (by omega), digitOf (by omega), Nat.div_add_mod,
        UInt8.ofNat_toNat]

theorem map_hexByte_hexText (bytes : List UInt8) :
    (List.range bytes.length).map (hexByte (hexText bytes)) = bytes := by
  have length := hexText_length bytes
  have slice := @pairBytes_slice (hexText bytes) 0 bytes.length (by omega)
  rw [Nat.mul_zero, List.drop_zero, List.take_of_length_le (by omega), pairBytes_hexText,
    ← List.range_eq_range'] at slice
  exact slice.symm

theorem map_hexByte_take (bytes : List UInt8) (count : Nat) :
    (List.range count).map (hexByte (hexText bytes)) =
      bytes.take count ++ List.replicate (count - bytes.length) 0 := by
  rcases Nat.le_total count bytes.length with fewer | more
  · rw [Nat.sub_eq_zero_of_le fewer, List.replicate_zero, List.append_nil]
    calc
      (List.range count).map (hexByte (hexText bytes))
          = ((List.range bytes.length).map (hexByte (hexText bytes))).take count := by
            rw [← List.map_take, List.take_range, Nat.min_eq_left fewer]
      _ = bytes.take count := by rw [map_hexByte_hexText]
  · have complete := @progress_complete (hexText bytes) bytes.length count more
      (Or.inr (hexText_length bytes).le) []
    rw [progress, map_hexByte_hexText, List.append_nil, List.append_nil] at complete
    rw [← complete, List.take_of_length_le more]

theorem storeDigit_some (byteString : List Char) (charPos : Nat) (c : Char) :
    storeDigit byteString charPos (some c) = Buffers.store byteString charPos c := rfl

theorem encodeBytes_step {bytes : List UInt8} (fits : 2 * bytes.length + 1 < 4294967296)
    {i : Nat} (inside : i < bytes.length) (count : Nat) (first second : Char)
    (after : List Char) :
    encodeBytes bytes (count + 1) i (hexText (bytes.take i) ++ first :: second :: after) =
      encodeBytes bytes count (i + 1) (hexText (bytes.take (i + 1)) ++ after) := by
  have length : (hexText (bytes.take i)).length = i * 2 := by
    rw [hexText_length, List.length_take]
    omega
  have high := Buffers.store_append (hexText (bytes.take i)) first
    (hexDigit (bytes[i].toNat / 16)) (second :: after)
  have low := Buffers.store_append
    (hexText (bytes.take i) ++ [hexDigit (bytes[i].toNat / 16)]) second
    (hexDigit (bytes[i].toNat % 16)) after
  rw [List.length_append, length, List.length_singleton, List.append_assoc,
    List.singleton_append] at low
  rw [length] at high
  have written : hexText (bytes.take (i + 1)) = hexText (bytes.take i) ++
      [hexDigit (bytes[i].toNat / 16)] ++ [hexDigit (bytes[i].toNat % 16)] := by
    rw [List.take_succ_eq_append_getElem inside, hexText, List.flatMap_append, ← hexText]
    simp
  rw [encodeBytes, List.getElem?_eq_getElem inside, Option.bind_some, highDigit_eq, lowDigit_eq,
    storeDigit_some, u32, Nat.mod_eq_of_lt (by omega), high, Option.bind_some, storeDigit_some,
    u32, Nat.mod_eq_of_lt (by omega), low, Option.bind_some, written,
    List.append_assoc _ [_] after, List.singleton_append]

/-- Whatever the array holds to begin with, its last character alone is left of that. -/
theorem encodeBytes_run {bytes : List UInt8} (fits : 2 * bytes.length + 1 < 4294967296)
    {count i : Nat} (rest : i + count = bytes.length) {after : List Char}
    (room : after.length = 2 * count + 1) :
    ∃ last, encodeBytes bytes count i (hexText (bytes.take i) ++ after) =
      some (hexText bytes ++ [last]) := by
  induction count generalizing i after with
  | zero =>
      obtain ⟨last, rfl⟩ := List.length_eq_one_iff.mp room
      refine ⟨last, ?_⟩
      rw [encodeBytes, List.take_of_length_le (by omega)]
  | succ count ih =>
      match after, room with
      | first :: second :: later, room =>
          rw [encodeBytes_step fits (by omega)]
          exact ih (by omega) (by simpa [Nat.mul_succ] using room)

theorem setHexByteString_showing (old : List Char) (heap : Nat → Char) {bytes : List UInt8}
    (fits : 2 * bytes.length + 1 < 4294967296) :
    (showing old).setHexByteString heap bytes bytes.length =
      some (true, showing (hexText bytes)) := by
  obtain ⟨last, encoded⟩ := encodeBytes_run fits (Nat.zero_add bytes.length)
    (show ((List.range (bytes.length * 2 + 1)).map heap).length = 2 * bytes.length + 1 by
      simp [Nat.mul_comm])
  rw [List.take_zero] at encoded
  change encodeBytes bytes bytes.length 0 ((List.range (bytes.length * 2 + 1)).map heap) = _
    at encoded
  have ended := Buffers.store_append (hexText bytes) last Buffers.nul []
  rw [hexText_length, Nat.mul_comm] at ended
  rw [setHexByteString, encoded, Option.bind_some, u32, Nat.mod_eq_of_lt (by omega), ended,
    Option.bind_some, Buffers.cString_append (not_nul_of_digit hexText_digits)]
  rfl

/-- What was written is read back: all of it, the first bytes of it, or all of it and zeros. -/
theorem getHexByteString_hexText (bytes : List UInt8) {dest : List UInt8} {destLength : Nat}
    (room : destLength ≤ dest.length) :
    (showing (hexText bytes)).getHexByteString dest destLength =
      some (true, bytes.take destLength ++
        List.replicate (destLength - bytes.length) 0 ++ dest.drop destLength) := by
  rw [getHexByteString_digits hexText_digits room, map_hexByte_take]

end EditControl

end LeanMiniViews
