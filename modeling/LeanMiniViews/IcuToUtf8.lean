import LeanMiniViews.Bits
import LeanMiniViews.IcuCore
import LeanMiniViews.Unicode

/-!
`u_strToUTF8` converts what is well formed, wherever its loops take over from each other, and
stops at the first surrogate that is no part of a character.
-/

namespace LeanMiniViews.Icu

open Unicode

/-! The macros on code points. -/

theorem isSurrogateLead_iff {unit : Nat} (surrogate : 0xd800 ≤ unit ∧ unit < 0xe000) :
    isSurrogateLead unit = true ↔ unit < 0xdc00 := by
  have field := Bits.and_field unit 1 10
  have masked : unit &&& 0x400 = unit / 2 ^ 10 % 2 ^ 1 * 2 ^ 10 := field
  rw [isSurrogateLead, masked, beq_iff_eq]
  omega

theorem isTrail_iff (unit : UInt16) : isTrail unit.toNat = true ↔ IsTrail unit := by
  have small := unit.toNat_lt
  have field : unit.toNat &&& 0xfffffc00 = unit.toNat / 2 ^ 10 % 2 ^ 22 * 2 ^ 10 :=
    Bits.and_field unit.toNat 22 10
  rw [isTrail, field, beq_iff_eq, IsTrail]
  omega

theorem getSupplementary_eq {lead trail : UInt16} (isLead : IsLead lead) (isTrail : IsTrail trail) :
    getSupplementary lead.toNat trail.toNat = (joined lead trail).toNat := by
  obtain ⟨leadLower, leadUpper⟩ := isLead
  obtain ⟨trailLower, trailUpper⟩ := isTrail
  have offset : surrogateOffset = 0x35fdc00 := rfl
  rw [getSupplementary, offset, Nat.shiftLeft_eq, joined, toNat_ofNat (by omega)]
  omega

theorem appendUTF8_eq (c : Char) : appendUTF8 c.toNat = utf8 c := by
  have valid := toNat_valid c
  have low6 (value : Nat) : value &&& 0x3f = value % 2 ^ 6 := Nat.and_two_pow_sub_one_eq_mod value 6
  have trail (value : Nat) : value % 2 ^ 6 ||| 0x80 = value % 2 ^ 6 + 0x80 :=
    Bits.or_field (Nat.mod_lt _ (by decide)) 2
  have two {value : Nat} (small : value < 2 ^ 6) : value ||| 0xc0 = value + 0xc0 :=
    Bits.or_field small 3
  have three {value : Nat} (small : value < 2 ^ 4) : value ||| 0xe0 = value + 0xe0 :=
    Bits.or_field small 14
  have four {value : Nat} (small : value < 2 ^ 4) : value ||| 0xf0 = value + 0xf0 :=
    Bits.or_field small 15
  rw [utf8_eq]
  simp only [appendUTF8, low6, trail, Nat.shiftRight_eq_div_pow]
  split
  · rfl
  · split
    · rw [two (by omega)]
      congr 3
      omega
    · split
      · rw [three (by omega)]
        congr 3
        omega
      · rw [four (by omega)]
        congr 3
        omega

theorem length8_eq (c : Char) : length8 c.toNat = (utf8 c).length := by
  have valid := toNat_valid c
  rw [length_utf8, length8]
  repeat' split
  all_goals omega

/-! One code point. -/

theorem readUTF16_cases (unit : UInt16) (rest : List UInt16) :
    (∃ c later, readUTF16 none unit rest = .ok (c.toNat, later) ∧ unit :: rest = utf16 c ++ later) ∨
      readUTF16 none unit rest = .error .invalidCharFound ∧ decode (unit :: rest) = none := by
  have small := unit.toNat_lt
  by_cases plain : unit.toNat ≤ 0xd7ff ∨ unit.toNat ≥ 0xe000
  · refine Or.inl ⟨Char.ofNat unit.toNat, rest, ?_, ?_⟩
    · simp only [readUTF16, if_pos plain]
      rw [toNat_ofNat (by omega)]
    · rw [utf16_ofNat (by omega)]
      rfl
  · have surrogate : IsLead unit ∨ IsTrail unit := by
      unfold IsLead IsTrail
      omega
    have range : 0xd800 ≤ unit.toNat ∧ unit.toNat < 0xe000 := by omega
    have unpaired (alone : ∀ next ∈ rest.head?, ¬ (IsLead unit ∧ IsTrail next)) :
        decode (unit :: rest) = none :=
      decode_of_unpaired (pieces_cons_of_unpaired surrogate alone)
    cases rest with
    | nil =>
        refine Or.inr ⟨?_, unpaired (by simp)⟩
        simp only [readUTF16, if_neg plain, substitute]
    | cons next later =>
        have read : readUTF16 none unit (next :: later) =
            if IsLead unit ∧ IsTrail next then
              .ok (getSupplementary unit.toNat next.toNat, later)
            else .error .invalidCharFound := by
          simp only [readUTF16, if_neg plain, Bool.and_eq_true, isSurrogateLead_iff range,
            isTrail_iff, substitute]
          simp only [IsLead, range.1, true_and]
        by_cases pair : IsLead unit ∧ IsTrail next
        · refine Or.inl ⟨joined unit next, later, ?_, ?_⟩
          · rw [read, if_pos pair, getSupplementary_eq pair.1 pair.2]
          · rw [utf16_joined pair.1 pair.2]
            rfl
        · refine Or.inr ⟨by rw [read, if_neg pair], unpaired ?_⟩
          intro other found
          obtain rfl : next = other := by simpa using found
          exact pair

/-! Runs of code points. -/

/-- The source up to `later` was read as these characters and written behind the others. -/
structure Took (characters : List Char) (source later : List UInt16)
    (target reached : Target UInt8) : Prop where
  source_eq : source = toUtf16 characters ++ later
  written_eq : reached.written = target.written ++ toUtf8 characters
  room_eq : reached.room + (toUtf8 characters).length = target.room

theorem Took.refl (source : List UInt16) (target : Target UInt8) :
    Took [] source source target target :=
  ⟨rfl, (List.append_nil _).symm, Nat.add_zero _⟩

theorem Took.trans {first second : List Char} {source middle later : List UInt16}
    {target between reached : Target UInt8} (before : Took first source middle target between)
    (after : Took second middle later between reached) :
    Took (first ++ second) source later target reached := by
  constructor
  · rw [before.source_eq, after.source_eq, toUtf16_append, List.append_assoc]
  · rw [after.written_eq, before.written_eq, toUtf8_append, List.append_assoc]
  · have left := before.room_eq
    have right := after.room_eq
    rw [toUtf8_append, List.length_append]
    omega

theorem put_codePoint {c : Char} {source later : List UInt16} (target : Target UInt8)
    (source_eq : source = utf16 c ++ later) (room : (utf8 c).length ≤ target.room) :
    ∃ reached, target.put (appendUTF8 c.toNat) = .ok reached ∧
      Took [c] source later target reached := by
  rw [appendUTF8_eq, Target.put, if_pos room]
  refine ⟨_, rfl, ?_, ?_, ?_⟩
  · rw [toUtf16_singleton]
    exact source_eq
  · rw [toUtf8_singleton]
  · rw [toUtf8_singleton]
    exact Nat.sub_add_cancel room

theorem Took.room_single {c : Char} {source later : List UInt16} {target reached : Target UInt8}
    (took : Took [c] source later target reached) :
    reached.room + (utf8 c).length = target.room := by
  have left := took.room_eq
  rwa [toUtf8_singleton] at left

/-- What a loop of `u_strToUTF8` does: it gets to some place between two characters, or finds the
source ill-formed. -/
def Converts (source : List UInt16) (target : Target UInt8) :
    Except Failure (List UInt16 × Target UInt8) → Prop
  | .ok (later, reached) => ∃ characters, Took characters source later target reached
  | .error failure => failure = .invalidCharFound ∧ decode source = none

theorem Took.decode_eq_none {characters : List Char} {source later : List UInt16}
    {target reached : Target UInt8} (took : Took characters source later target reached)
    (illFormed : decode later = none) : decode source = none := by
  rw [took.source_eq, decode, pieces_toUtf16_append]
  rw [decode] at illFormed
  simp [List.mapM_append, illFormed]

theorem Took.converts {characters : List Char} {source middle : List UInt16}
    {target between : Target UInt8} (took : Took characters source middle target between)
    {result : Except Failure (List UInt16 × Target UInt8)}
    (converts : Converts middle between result) : Converts source target result := by
  cases result with
  | ok reached =>
      obtain ⟨more, after⟩ := converts
      exact ⟨characters ++ more, took.trans after⟩
  | error failure => exact ⟨converts.1, took.decode_eq_none converts.2⟩

/-! The loops. -/

/-- One code point, and `loop` for what is left. -/
theorem read_converts {unit : UInt16} {rest : List UInt16} {target : Target UInt8}
    {loop : List UInt16 → Target UInt8 → Except Failure (List UInt16 × Target UInt8)}
    (continues : ∀ c later, readUTF16 none unit rest = .ok (c.toNat, later) →
      unit :: rest = utf16 c ++ later → (utf8 c).length ≤ target.room ∧
        ∀ reached : Target UInt8, reached.room + (utf8 c).length = target.room →
          Converts later reached (loop later reached)) :
    Converts (unit :: rest) target (do
      let read ← readUTF16 none unit rest
      loop read.2 (← target.put (appendUTF8 read.1))) := by
  rcases readUTF16_cases unit rest with ⟨c, later, read, source_eq⟩ | ⟨failed, illFormed⟩
  · obtain ⟨room, later_converts⟩ := continues c later read source_eq
    obtain ⟨reached, put, took⟩ := put_codePoint target source_eq room
    simp only [read, put, bind, Except.bind]
    exact took.converts (later_converts reached took.room_single)
  · simp only [failed, bind, Except.bind]
    exact ⟨rfl, illFormed⟩

theorem unchecked_converts {count : Nat} {source : List UInt16} {target : Target UInt8}
    (units : count ≤ source.length) (room : 3 * count ≤ target.room) :
    Converts source target (toUTF8Unchecked none count source target) := by
  induction count using Nat.strongRecOn generalizing source target with
  | ind count ih =>
      cases count with
      | zero =>
          rw [toUTF8Unchecked]
          exact ⟨[], Took.refl source target⟩
      | succ count =>
          cases source with
          | nil => simp at units
          | cons unit rest =>
              rw [List.length_cons] at units
              by_cases plain : unit.toNat ≤ 0xd7ff ∨ unit.toNat ≥ 0xe000
              · have step : toUTF8Unchecked none (count + 1) (unit :: rest) target = (do
                    let read ← readUTF16 none unit rest
                    toUTF8Unchecked none count read.2 (← target.put (appendUTF8 read.1))) := by
                  rw [toUTF8Unchecked.eq_def]
                  simp only [readUTF16, if_pos plain, bind, Except.bind]
                rw [step]
                refine read_converts fun c later read source_eq => ?_
                simp only [readUTF16, if_pos plain, Except.ok.injEq, Prod.mk.injEq] at read
                obtain ⟨-, rfl⟩ := read
                have lengths := congrArg List.length source_eq
                have bytes := length_utf8_le c
                rw [List.length_cons, List.length_append] at lengths
                exact ⟨by omega, fun reached left => ih count (by omega) (by omega) (by omega)⟩
              · rw [toUTF8Unchecked.eq_def]
                simp only [if_neg plain]
                cases count with
                | zero => exact ⟨[], Took.refl _ _⟩
                | succ count =>
                    have follows : (isSurrogateLead unit.toNat && rest.isEmpty) = false := by
                      cases rest with
                      | nil => simp at units
                      | cons => exact Bool.and_false _
                    simp only [follows, Bool.false_eq_true, if_false]
                    refine read_converts fun c later read source_eq => ?_
                    have lengths := congrArg List.length source_eq
                    have bytes := length_utf8_le c
                    have bounds := length_utf16_bounds c
                    rw [List.length_cons, List.length_append] at lengths
                    exact ⟨by omega, fun reached left => ih count (by omega) (by omega) (by omega)⟩

theorem faster_converts (rounds : Nat) (source : List UInt16) (target : Target UInt8) :
    Converts source target (toUTF8Faster none rounds source target) := by
  induction rounds generalizing source target with
  | zero => exact ⟨[], Took.refl source target⟩
  | succ rounds ih =>
      rw [toUTF8Faster]
      split
      · exact ⟨[], Took.refl source target⟩
      · have converts := @unchecked_converts (min (target.room / 3) source.length) source target
          (Nat.min_le_right _ _) (by omega)
        generalize toUTF8Unchecked none (min (target.room / 3) source.length) source target = result
          at converts ⊢
        cases result with
        | ok reached =>
            obtain ⟨characters, took⟩ := converts
            exact took.converts (ih reached.1 reached.2)
        | error failure => exact converts

/-- With room for three bytes a unit the second loop does not stop early. -/
theorem checked_converts {rounds : Nat} {source : List UInt16} {target : Target UInt8}
    (enough : source.length ≤ rounds) (room : 3 * source.length ≤ target.room) :
    (∃ characters reached, Took characters source [] target reached ∧
        toUTF8Checked none rounds source target = .ok ⟨[], reached, 0⟩) ∨
      decode source = none ∧
        toUTF8Checked none rounds source target = .error .invalidCharFound := by
  induction rounds generalizing source target with
  | zero =>
      obtain rfl := List.length_eq_zero_iff.mp (Nat.le_zero.mp enough)
      exact Or.inl ⟨[], target, Took.refl [] target, rfl⟩
  | succ rounds ih =>
      cases source with
      | nil => exact Or.inl ⟨[], target, Took.refl [] target, rfl⟩
      | cons unit rest =>
          rcases readUTF16_cases unit rest with ⟨c, later, read, source_eq⟩ | ⟨failed, illFormed⟩
          · have lengths := congrArg List.length source_eq
            have bytes := length_utf8_le c
            have bounds := length_utf16_bounds c
            rw [List.length_append] at lengths
            obtain ⟨reached, put, took⟩ := put_codePoint target source_eq (by omega)
            have left := took.room_single
            have fits : target.room ≥ length8 c.toNat := by
              rw [length8_eq]
              omega
            have next : toUTF8Checked none (rounds + 1) (unit :: rest) target =
                toUTF8Checked none rounds later reached := by
              simp only [toUTF8Checked, read, bind, Except.bind, if_pos fits, put]
            rw [next]
            rcases ih (show later.length ≤ rounds by omega)
              (show 3 * later.length ≤ reached.room by omega) with
              ⟨characters, last, after, result⟩ | ⟨illFormed, result⟩
            · exact Or.inl ⟨c :: characters, last, took.trans after, result⟩
            · exact Or.inr ⟨took.decode_eq_none illFormed, result⟩
          · refine Or.inr ⟨illFormed, ?_⟩
            simp only [toUTF8Checked, failed, bind, Except.bind]

/-- All of the source is converted, or nothing is reported. -/
theorem strToUTF8_eq {capacity : Nat} {source : List UInt16} (room : 3 * source.length ≤ capacity)
    (counted : 3 * source.length < 2 ^ 31) :
    strToUTF8 capacity source =
      match decode source with
      | some characters =>
          .ok ⟨toUtf8 characters, (toUtf8 characters).length,
            terminate capacity (toUtf8 characters).length⟩
      | none => .error .invalidCharFound := by
  have converts := faster_converts source.length source ⟨[], capacity⟩
  have legal : legalSubchar none = true := rfl
  simp only [strToUTF8, strToUTF8WithSub, legal, if_true]
  cases faster : toUTF8Faster none source.length source ⟨[], capacity⟩ with
  | error failure =>
      rw [faster] at converts
      obtain ⟨rfl, illFormed⟩ := converts
      rw [illFormed]
      rfl
  | ok reached =>
      rw [faster] at converts
      obtain ⟨first, before⟩ := converts
      have lengths := congrArg List.length before.source_eq
      have bytes := length_toUtf8_le first
      have left : reached.2.room + (toUtf8 first).length = capacity := before.room_eq
      rw [List.length_append] at lengths
      rcases checked_converts (Nat.le_refl reached.1.length)
        (show 3 * reached.1.length ≤ reached.2.room by omega) with
        ⟨second, last, after, result⟩ | ⟨illFormed, result⟩
      · have whole := before.trans after
        have decoded : decode source = some (first ++ second) := by
          rw [decode_eq_some_iff, whole.source_eq, List.append_nil]
        have written : last.written = toUtf8 (first ++ second) := whole.written_eq
        have total := length_toUtf8_le (first ++ second)
        rw [decode_eq_some_iff] at decoded
        rw [← decoded] at total
        rw [decode_eq_some_iff.mpr decoded]
        simp only [bind, Except.bind, result, List.length_nil, toUTF8Preflight, written,
          Nat.zero_add]
        exact if_pos (by omega)
      · rw [before.decode_eq_none illFormed]
        simp only [bind, Except.bind, result]

end LeanMiniViews.Icu
