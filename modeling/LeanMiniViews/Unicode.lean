import Mathlib.Data.List.Basic

/-!
Characters in UTF-16 and in UTF-8. A sequence of 16-bit units is cut into the characters it has
and the surrogates that are no part of one.
-/

namespace Unicode

def IsLead (unit : UInt16) : Prop := 0xd800 ≤ unit.toNat ∧ unit.toNat < 0xdc00

def IsTrail (unit : UInt16) : Prop := 0xdc00 ≤ unit.toNat ∧ unit.toNat < 0xe000

instance (unit : UInt16) : Decidable (IsLead unit) := inferInstanceAs (Decidable (_ ∧ _))

instance (unit : UInt16) : Decidable (IsTrail unit) := inferInstanceAs (Decidable (_ ∧ _))

def utf16 (c : Char) : List UInt16 :=
  if c.toNat < 0x10000 then [UInt16.ofNat c.toNat]
  else [UInt16.ofNat (0xd800 + (c.toNat - 0x10000) / 0x400),
    UInt16.ofNat (0xdc00 + (c.toNat - 0x10000) % 0x400)]

abbrev utf8 (c : Char) : List UInt8 := String.utf8EncodeChar c

def toUtf16 (characters : List Char) : List UInt16 := characters.flatMap utf16

def toUtf8 (characters : List Char) : List UInt8 := characters.flatMap utf8

def joined (lead trail : UInt16) : Char :=
  Char.ofNat (0x10000 + (lead.toNat - 0xd800) * 0x400 + (trail.toNat - 0xdc00))

inductive Piece where
  | character (c : Char)
  | unpaired (unit : UInt16)
deriving DecidableEq

namespace Piece

def units : Piece → List UInt16
  | character c => utf16 c
  | unpaired unit => [unit]

def character? : Piece → Option Char
  | character c => some c
  | unpaired _ => none

end Piece

def single (unit : UInt16) : Piece :=
  if IsLead unit ∨ IsTrail unit then .unpaired unit else .character (Char.ofNat unit.toNat)

def pieces : List UInt16 → List Piece
  | [] => []
  | [unit] => [single unit]
  | unit :: next :: rest =>
      if IsLead unit ∧ IsTrail next then .character (joined unit next) :: pieces rest
      else single unit :: pieces (next :: rest)

/-- The characters of a sequence that is well formed. -/
def decode (units : List UInt16) : Option (List Char) := (pieces units).mapM Piece.character?

def WellFormed16 (units : List UInt16) : Prop := ∃ characters, units = toUtf16 characters

def WellFormed8 (bytes : List UInt8) : Prop := ∃ characters, bytes = toUtf8 characters

/-! One character. -/

theorem toNat_valid (c : Char) :
    c.toNat < 0xd800 ∨ 0xe000 ≤ c.toNat ∧ c.toNat < 0x110000 := by
  rcases c.valid with below | ⟨above, bound⟩
  · exact Or.inl below
  · exact Or.inr ⟨above, bound⟩

theorem toNat_ofNat {value : Nat}
    (valid : value < 0xd800 ∨ 0xe000 ≤ value ∧ value < 0x110000) :
    (Char.ofNat value).toNat = value := by
  have isValid : value.isValidChar := by
    rcases valid with below | ⟨above, bound⟩
    · exact Or.inl below
    · exact Or.inr ⟨by omega, bound⟩
  rw [Char.ofNat, dif_pos isValid]
  rfl

theorem toNat_unit {value : Nat} (small : value < 0x10000) :
    (UInt16.ofNat value).toNat = value := by
  rw [UInt16.toNat_ofNat']
  exact Nat.mod_eq_of_lt small

theorem utf8_eq (c : Char) :
    utf8 c =
      if c.toNat ≤ 0x7f then [UInt8.ofNat c.toNat]
      else if c.toNat ≤ 0x7ff then
        [UInt8.ofNat (c.toNat / 64 % 32 + 0xc0), UInt8.ofNat (c.toNat % 64 + 0x80)]
      else if c.toNat ≤ 0xffff then
        [UInt8.ofNat (c.toNat / 4096 % 16 + 0xe0), UInt8.ofNat (c.toNat / 64 % 64 + 0x80),
          UInt8.ofNat (c.toNat % 64 + 0x80)]
      else
        [UInt8.ofNat (c.toNat / 262144 % 8 + 0xf0), UInt8.ofNat (c.toNat / 4096 % 64 + 0x80),
          UInt8.ofNat (c.toNat / 64 % 64 + 0x80), UInt8.ofNat (c.toNat % 64 + 0x80)] :=
  rfl

theorem single_of_char {c : Char} (small : c.toNat < 0x10000) :
    single (UInt16.ofNat c.toNat) = .character c := by
  have valid := toNat_valid c
  rw [single, if_neg, toNat_unit small, Char.ofNat_toNat]
  simp only [IsLead, IsTrail, toNat_unit small]
  omega

theorem pieces_cons_of_not_lead {unit : UInt16} (notLead : ¬ IsLead unit) (rest : List UInt16) :
    pieces (unit :: rest) = single unit :: pieces rest := by
  cases rest with
  | nil => rfl
  | cons next rest => rw [pieces, if_neg fun pair => notLead pair.1]

theorem pieces_cons_of_pair {lead trail : UInt16} (isLead : IsLead lead) (isTrail : IsTrail trail)
    (rest : List UInt16) :
    pieces (lead :: trail :: rest) = .character (joined lead trail) :: pieces rest := by
  rw [pieces, if_pos ⟨isLead, isTrail⟩]

theorem pieces_cons_of_unpaired {unit : UInt16} (surrogate : IsLead unit ∨ IsTrail unit)
    {rest : List UInt16} (alone : ∀ next ∈ rest.head?, ¬ (IsLead unit ∧ IsTrail next)) :
    pieces (unit :: rest) = .unpaired unit :: pieces rest := by
  have piece : single unit = .unpaired unit := if_pos surrogate
  cases rest with
  | nil => simp only [pieces, piece]
  | cons next rest => rw [pieces, if_neg (alone next rfl), piece]

theorem pieces_utf16_append (c : Char) (rest : List UInt16) :
    pieces (utf16 c ++ rest) = .character c :: pieces rest := by
  have valid := toNat_valid c
  unfold utf16
  split
  · rename_i small
    have notLead : ¬ IsLead (UInt16.ofNat c.toNat) := by
      simp only [IsLead, toNat_unit small]
      omega
    rw [List.singleton_append, pieces_cons_of_not_lead notLead, single_of_char small]
  · have lead := toNat_unit (show 0xd800 + (c.toNat - 0x10000) / 0x400 < 0x10000 by omega)
    have trail := toNat_unit (show 0xdc00 + (c.toNat - 0x10000) % 0x400 < 0x10000 by omega)
    rw [List.cons_append, List.cons_append, List.nil_append, pieces_cons_of_pair]
    · rw [joined, lead, trail]
      have value : 0x10000 + (0xd800 + (c.toNat - 0x10000) / 0x400 - 0xd800) * 0x400 +
          (0xdc00 + (c.toNat - 0x10000) % 0x400 - 0xdc00) = c.toNat := by omega
      rw [value, Char.ofNat_toNat]
    · simp only [IsLead, lead]
      omega
    · simp only [IsTrail, trail]
      omega

theorem utf16_joined {lead trail : UInt16} (isLead : IsLead lead) (isTrail : IsTrail trail) :
    utf16 (joined lead trail) = [lead, trail] := by
  obtain ⟨leadLower, leadUpper⟩ := isLead
  obtain ⟨trailLower, trailUpper⟩ := isTrail
  have value : (joined lead trail).toNat =
      0x10000 + (lead.toNat - 0xd800) * 0x400 + (trail.toNat - 0xdc00) :=
    toNat_ofNat (by omega)
  rw [utf16, value, if_neg (by omega)]
  have first : 0xd800 + (0x10000 + (lead.toNat - 0xd800) * 0x400 + (trail.toNat - 0xdc00) -
      0x10000) / 0x400 = lead.toNat := by omega
  have second : 0xdc00 + (0x10000 + (lead.toNat - 0xd800) * 0x400 + (trail.toNat - 0xdc00) -
      0x10000) % 0x400 = trail.toNat := by omega
  rw [first, second, UInt16.ofNat_toNat, UInt16.ofNat_toNat]

theorem utf16_ofNat {unit : UInt16} (notSurrogate : unit.toNat < 0xd800 ∨ 0xe000 ≤ unit.toNat) :
    utf16 (Char.ofNat unit.toNat) = [unit] := by
  have small := unit.toNat_lt
  have value : (Char.ofNat unit.toNat).toNat = unit.toNat := toNat_ofNat (by omega)
  rw [utf16, value, if_pos small, UInt16.ofNat_toNat]

theorem units_single (unit : UInt16) : (single unit).units = [unit] := by
  unfold single
  split
  · rfl
  · rename_i notSurrogate
    simp only [IsLead, IsTrail] at notSurrogate
    exact utf16_ofNat (by omega)

/-! Sequences. -/

theorem toUtf16_append (first second : List Char) :
    toUtf16 (first ++ second) = toUtf16 first ++ toUtf16 second := List.flatMap_append

theorem toUtf8_append (first second : List Char) :
    toUtf8 (first ++ second) = toUtf8 first ++ toUtf8 second := List.flatMap_append

theorem toUtf16_singleton (c : Char) : toUtf16 [c] = utf16 c := List.flatMap_singleton ..

theorem toUtf8_singleton (c : Char) : toUtf8 [c] = utf8 c := List.flatMap_singleton ..

theorem pieces_toUtf16_append (characters : List Char) (rest : List UInt16) :
    pieces (toUtf16 characters ++ rest) = characters.map .character ++ pieces rest := by
  induction characters with
  | nil => rfl
  | cons c characters ih =>
      rw [toUtf16, List.flatMap_cons, List.append_assoc, pieces_utf16_append, ← toUtf16, ih]
      rfl

theorem flatMap_pieces (units : List UInt16) : (pieces units).flatMap Piece.units = units := by
  induction units using pieces.induct with
  | case1 => rfl
  | case2 unit => simp [pieces, units_single]
  | case3 unit next rest pair ih =>
      rw [pieces_cons_of_pair pair.1 pair.2, List.flatMap_cons, ih, Piece.units,
        utf16_joined pair.1 pair.2]
      rfl
  | case4 unit next rest noPair ih =>
      rw [pieces, if_neg noPair, List.flatMap_cons, ih, units_single]
      rfl

theorem mapM_character_eq_some_iff {cut : List Piece} {characters : List Char} :
    cut.mapM Piece.character? = some characters ↔ cut = characters.map .character := by
  induction cut generalizing characters with
  | nil => cases characters <;> simp
  | cons piece cut ih =>
      cases piece with
      | character c =>
          cases characters <;> simp [Piece.character?, Option.bind_eq_some_iff, ih, and_comm]
      | unpaired unit => cases characters <;> simp [Piece.character?]

theorem pieces_toUtf16 (characters : List Char) :
    pieces (toUtf16 characters) = characters.map .character := by
  have whole := pieces_toUtf16_append characters []
  rwa [List.append_nil, pieces, List.append_nil] at whole

theorem decode_eq_some_iff {units : List UInt16} {characters : List Char} :
    decode units = some characters ↔ units = toUtf16 characters := by
  rw [decode, mapM_character_eq_some_iff]
  constructor
  · intro cut
    rw [← flatMap_pieces units, cut, List.flatMap_map]
    rfl
  · rintro rfl
    exact pieces_toUtf16 characters

theorem decode_of_unpaired {units : List UInt16} {unit : UInt16} {cut : List Piece}
    (found : pieces units = .unpaired unit :: cut) : decode units = none := by
  rw [decode, found, List.mapM_cons]
  rfl

theorem wellFormed16_iff (units : List UInt16) : WellFormed16 units ↔ (decode units).isSome := by
  simp only [WellFormed16, Option.isSome_iff_exists, decode_eq_some_iff]

instance (units : List UInt16) : Decidable (WellFormed16 units) :=
  decidable_of_iff _ (wellFormed16_iff units).symm

/-! What is left of a sequence when the surrogates outside of characters are dropped, or replaced
by a character each. -/

inductive Keeps : List Piece → List UInt8 → Prop
  | nil : Keeps [] []
  | character {cut : List Piece} {bytes : List UInt8} (c : Char) :
      Keeps cut bytes → Keeps (.character c :: cut) (utf8 c ++ bytes)
  | dropped {cut : List Piece} {bytes : List UInt8} (unit : UInt16) :
      Keeps cut bytes → Keeps (.unpaired unit :: cut) bytes
  | replaced {cut : List Piece} {bytes : List UInt8} (unit : UInt16) (c : Char) :
      Keeps cut bytes → Keeps (.unpaired unit :: cut) (utf8 c ++ bytes)

def NoCharacter (cut : List Piece) : Prop := ∀ piece ∈ cut, piece.character? = none

instance (cut : List Piece) : Decidable (NoCharacter cut) :=
  inferInstanceAs (Decidable (∀ piece ∈ cut, _))

theorem utf8_ne_nil (c : Char) : utf8 c ≠ [] := by
  rw [utf8_eq]
  repeat' split
  all_goals exact List.cons_ne_nil _ _

theorem keeps_nil_iff (cut : List Piece) : Keeps cut [] ↔ NoCharacter cut := by
  constructor
  · generalize same : ([] : List UInt8) = bytes
    intro keeps
    induction keeps with
    | nil => exact List.forall_mem_nil _
    | character c _ _ => exact absurd (List.append_eq_nil_iff.mp same.symm).1 (utf8_ne_nil c)
    | dropped unit _ ih => exact List.forall_mem_cons.mpr ⟨rfl, ih same⟩
    | replaced _ c _ _ => exact absurd (List.append_eq_nil_iff.mp same.symm).1 (utf8_ne_nil c)
  · intro noCharacter
    induction cut with
    | nil => exact .nil
    | cons piece cut ih =>
        obtain ⟨here, there⟩ := List.forall_mem_cons.mp noCharacter
        cases piece with
        | character c => cases here
        | unpaired unit => exact .dropped unit (ih there)

theorem keeps_cons_character_iff {c : Char} {cut : List Piece} {bytes : List UInt8} :
    Keeps (.character c :: cut) (utf8 c ++ bytes) ↔ Keeps cut bytes := by
  constructor
  · generalize same : utf8 c ++ bytes = whole
    intro keeps
    cases keeps with
    | character _ keeps => rwa [List.append_cancel_left same]
  · exact .character c

theorem keeps_characters_iff {characters : List Char} {cut : List Piece} {bytes : List UInt8} :
    Keeps (characters.map .character ++ cut) (toUtf8 characters ++ bytes) ↔ Keeps cut bytes := by
  induction characters with
  | nil => rfl
  | cons c characters ih =>
      rw [toUtf8, List.flatMap_cons, List.append_assoc, List.map_cons, List.cons_append,
        keeps_cons_character_iff, ← toUtf8, ih]

/-! Bytes that are ill-formed in places: the characters of them are kept, and a byte that starts
none is dropped or gives way to a character that marks it. -/

def StartsCharacter (bytes : List UInt8) : Prop := ∃ c later, bytes = utf8 c ++ later

inductive Repairs (mark : Char) : List UInt8 → List UInt16 → Prop
  | nil : Repairs mark [] []
  | character {bytes : List UInt8} {units : List UInt16} (c : Char) :
      Repairs mark bytes units → Repairs mark (utf8 c ++ bytes) (utf16 c ++ units)
  | dropped {bytes : List UInt8} {units : List UInt16} (byte : UInt8) :
      ¬ StartsCharacter (byte :: bytes) → Repairs mark bytes units →
        Repairs mark (byte :: bytes) units
  | replaced {bytes : List UInt8} {units : List UInt16} (byte : UInt8) :
      ¬ StartsCharacter (byte :: bytes) → Repairs mark bytes units →
        Repairs mark (byte :: bytes) (utf16 mark ++ units)

theorem utf8_append_inj {c other : Char} {rest otherRest : List UInt8}
    (same : utf8 c ++ rest = utf8 other ++ otherRest) : c = other ∧ rest = otherRest := by
  have first := @ByteArray.utf8DecodeChar?_utf8EncodeChar_append rest.toByteArray c
  rw [← List.toByteArray_append, same, List.toByteArray_append,
    ByteArray.utf8DecodeChar?_utf8EncodeChar_append] at first
  obtain rfl := Option.some.inj first
  exact ⟨rfl, List.append_cancel_left same⟩

theorem Repairs.eq_toUtf16 {mark : Char} {characters : List Char} {units : List UInt16}
    (repairs : Repairs mark (toUtf8 characters) units) : units = toUtf16 characters := by
  induction characters generalizing units with
  | nil =>
      generalize same : toUtf8 [] = bytes at repairs
      cases repairs with
      | nil => rfl
      | character c _ => exact absurd (List.append_eq_nil_iff.mp same.symm).1 (utf8_ne_nil c)
      | dropped => cases same
      | replaced => cases same
  | cons c characters ih =>
      have bytes : toUtf8 (c :: characters) = utf8 c ++ toUtf8 characters := List.flatMap_cons ..
      generalize same : toUtf8 (c :: characters) = whole at repairs
      rw [bytes] at same
      cases repairs with
      | nil => exact absurd (List.append_eq_nil_iff.mp same).1 (utf8_ne_nil c)
      | character other repairs =>
          obtain ⟨rfl, rfl⟩ := utf8_append_inj same
          rw [ih repairs]
          rfl
      | dropped byte noStart _ => exact absurd ⟨c, _, same.symm⟩ noStart
      | replaced byte noStart _ => exact absurd ⟨c, _, same.symm⟩ noStart

theorem Repairs.wellFormed16 {mark : Char} {bytes : List UInt8} {units : List UInt16}
    (repairs : Repairs mark bytes units) : WellFormed16 units := by
  induction repairs with
  | nil => exact ⟨[], rfl⟩
  | character c _ ih =>
      obtain ⟨characters, rfl⟩ := ih
      exact ⟨c :: characters, rfl⟩
  | dropped _ _ _ ih => exact ih
  | replaced _ _ _ ih =>
      obtain ⟨characters, rfl⟩ := ih
      exact ⟨mark :: characters, rfl⟩

/-! Which bytes a character has. -/

def IsTrailByte (byte : UInt8) : Prop := 0x80 ≤ byte.toNat ∧ byte.toNat < 0xc0

theorem ofNat_eq_byte {value : Nat} {byte : UInt8} (same : value = byte.toNat) :
    UInt8.ofNat value = byte := by
  rw [same, UInt8.ofNat_toNat]

theorem startsCharacter_one {first : UInt8} (small : first.toNat < 0x80) (rest : List UInt8) :
    StartsCharacter (first :: rest) := by
  obtain ⟨c, value⟩ : ∃ c : Char, c.toNat = first.toNat := ⟨_, toNat_ofNat (by omega)⟩
  refine ⟨c, rest, ?_⟩
  rw [utf8_eq, value, if_pos (by omega), ofNat_eq_byte rfl]
  rfl

theorem startsCharacter_two {first second : UInt8}
    (lead : 0xc2 ≤ first.toNat ∧ first.toNat < 0xe0) (trail : IsTrailByte second)
    (rest : List UInt8) : StartsCharacter (first :: second :: rest) := by
  obtain ⟨trailLower, trailUpper⟩ := trail
  obtain ⟨c, value⟩ : ∃ c : Char,
      c.toNat = (first.toNat - 0xc0) * 64 + (second.toNat - 0x80) := ⟨_, toNat_ofNat (by omega)⟩
  refine ⟨c, rest, ?_⟩
  rw [utf8_eq, value, if_neg (by omega), if_pos (by omega),
    ofNat_eq_byte (show _ = first.toNat by omega), ofNat_eq_byte (show _ = second.toNat by omega)]
  rfl

theorem startsCharacter_three {first second third : UInt8}
    (lead : 0xe0 ≤ first.toNat ∧ first.toNat < 0xf0) (trail : IsTrailByte second)
    (last : IsTrailByte third) (notOverlong : first.toNat = 0xe0 → 0xa0 ≤ second.toNat)
    (notSurrogate : first.toNat = 0xed → second.toNat < 0xa0) (rest : List UInt8) :
    StartsCharacter (first :: second :: third :: rest) := by
  obtain ⟨trailLower, trailUpper⟩ := trail
  obtain ⟨lastLower, lastUpper⟩ := last
  obtain ⟨c, value⟩ : ∃ c : Char,
      c.toNat = (first.toNat - 0xe0) * 4096 + (second.toNat - 0x80) * 64 + (third.toNat - 0x80) :=
    ⟨_, toNat_ofNat (by omega)⟩
  refine ⟨c, rest, ?_⟩
  rw [utf8_eq, value, if_neg (by omega), if_neg (by omega), if_pos (by omega),
    ofNat_eq_byte (show _ = first.toNat by omega), ofNat_eq_byte (show _ = second.toNat by omega),
    ofNat_eq_byte (show _ = third.toNat by omega)]
  rfl

theorem startsCharacter_four {first second third fourth : UInt8}
    (lead : 0xf0 ≤ first.toNat ∧ first.toNat ≤ 0xf4) (trail : IsTrailByte second)
    (next : IsTrailByte third) (last : IsTrailByte fourth)
    (notOverlong : first.toNat = 0xf0 → 0x90 ≤ second.toNat)
    (inRange : first.toNat = 0xf4 → second.toNat < 0x90) (rest : List UInt8) :
    StartsCharacter (first :: second :: third :: fourth :: rest) := by
  obtain ⟨trailLower, trailUpper⟩ := trail
  obtain ⟨nextLower, nextUpper⟩ := next
  obtain ⟨lastLower, lastUpper⟩ := last
  obtain ⟨c, value⟩ : ∃ c : Char,
      c.toNat = (first.toNat - 0xf0) * 262144 + (second.toNat - 0x80) * 4096 +
        (third.toNat - 0x80) * 64 + (fourth.toNat - 0x80) :=
    ⟨_, toNat_ofNat (by omega)⟩
  refine ⟨c, rest, ?_⟩
  rw [utf8_eq, value, if_neg (by omega), if_neg (by omega), if_neg (by omega),
    ofNat_eq_byte (show _ = first.toNat by omega), ofNat_eq_byte (show _ = second.toNat by omega),
    ofNat_eq_byte (show _ = third.toNat by omega), ofNat_eq_byte (show _ = fourth.toNat by omega)]
  rfl

theorem not_startsCharacter_of_trail {byte : UInt8} (trail : IsTrailByte byte)
    (rest : List UInt8) : ¬ StartsCharacter (byte :: rest) := by
  rintro ⟨c, later, same⟩
  obtain ⟨lower, upper⟩ := trail
  have valid := toNat_valid c
  rw [utf8_eq] at same
  repeat' split at same
  all_goals
    have value := congrArg UInt8.toNat (List.cons.inj same).1
    rw [UInt8.toNat_ofNat'] at value
    omega

/-! Lengths. -/

theorem length_utf8 (c : Char) :
    (utf8 c).length =
      if c.toNat ≤ 0x7f then 1 else if c.toNat ≤ 0x7ff then 2 else if c.toNat ≤ 0xffff then 3
      else 4 := by
  rw [utf8_eq]
  split
  · rfl
  · split
    · rfl
    · split <;> rfl

theorem length_utf16 (c : Char) : (utf16 c).length = if c.toNat < 0x10000 then 1 else 2 := by
  unfold utf16
  split <;> rfl

theorem length_utf16_bounds (c : Char) : 1 ≤ (utf16 c).length ∧ (utf16 c).length ≤ 2 := by
  rw [length_utf16]
  split <;> omega

theorem length_utf16_le (c : Char) : (utf16 c).length ≤ (utf8 c).length := by
  rw [length_utf16, length_utf8]
  split <;> repeat' split
  all_goals omega

theorem length_utf8_le (c : Char) : (utf8 c).length ≤ 3 * (utf16 c).length := by
  rw [length_utf16, length_utf8]
  split <;> repeat' split
  all_goals omega

theorem toUtf16_cons_ne_nil (c : Char) (characters : List Char) :
    toUtf16 (c :: characters) ≠ [] := by
  intro empty
  have units := (length_utf16_bounds c).1
  rw [toUtf16, List.flatMap_cons, List.append_eq_nil_iff] at empty
  rw [empty.1, List.length_nil] at units
  omega

theorem length_toUtf16_le (characters : List Char) :
    (toUtf16 characters).length ≤ (toUtf8 characters).length := by
  induction characters with
  | nil => exact Nat.le_refl 0
  | cons c characters ih =>
      have here := length_utf16_le c
      simp only [toUtf16, toUtf8, List.flatMap_cons, List.length_append] at ih ⊢
      omega

theorem length_toUtf8_le (characters : List Char) :
    (toUtf8 characters).length ≤ 3 * (toUtf16 characters).length := by
  induction characters with
  | nil => exact Nat.le_refl 0
  | cons c characters ih =>
      have here := length_utf8_le c
      simp only [toUtf16, toUtf8, List.flatMap_cons, List.length_append] at ih ⊢
      omega

theorem length_toUtf16_replicate (count : Nat) (c : Char) :
    (toUtf16 (List.replicate count c)).length = count * (utf16 c).length := by
  induction count with
  | zero => rw [Nat.zero_mul]; rfl
  | succ count ih =>
      rw [toUtf16, List.replicate_succ, List.flatMap_cons, List.length_append, ← toUtf16, ih,
        Nat.succ_mul, Nat.add_comm]

theorem length_toUtf8_replicate (count : Nat) (c : Char) :
    (toUtf8 (List.replicate count c)).length = count * (utf8 c).length := by
  induction count with
  | zero => rw [Nat.zero_mul]; rfl
  | succ count ih =>
      rw [toUtf8, List.replicate_succ, List.flatMap_cons, List.length_append, ← toUtf8, ih,
        Nat.succ_mul, Nat.add_comm]

end Unicode
