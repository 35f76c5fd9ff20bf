import LeanMiniViews.SimpleIcu

/-!
The text of a window, for which the window is asked for a length first. It may report more than
there is; only what it copies afterwards is counted.
-/

namespace LeanMiniViews.WindowText

open Unicode

/-- `GetWindowText`: the buffer, and how many units of it are the text. -/
def copyText (text buffer : List UInt16) : List UInt16 × Nat :=
  let copied := text.take (buffer.length - 1)
  (copied ++ 0 :: buffer.drop (copied.length + 1), copied.length)

/-- `reported` is what `GetWindowTextLength` returned, and `memory` what `new` leaves in an array.
There is no result where the length overflows or the conversion has none. -/
def readText (withoutText : Option (List UInt8)) (reported : Int) (text : List UInt16)
    (memory : Nat → UInt16) : Option (Option (List UInt8)) :=
  (CheckedInt.add reported 1).bind fun titleLength =>
    if titleLength > 1 then
      let copied := copyText text ((List.range titleLength.toNat).map memory)
      if copied.2 ≠ 0 then
        let titleText := copied.1.set (titleLength.toNat - 1) 0
        (Icux.toUtf8 (titleText.take (titleLength.toNat - 1))).map some
      else some none
    else if titleLength = 1 then some withoutText
    else some none

def getWinText (reported : Int) (text : List UInt16) (memory : Nat → UInt16) :
    Option (Option (List UInt8)) :=
  readText (some []) reported text memory

/-- The function of `MiniView.cpp` has no branch for the empty text. -/
def getWindowText (reported : Int) (text : List UInt16) (memory : Nat → UInt16) :
    Option (Option (List UInt8)) :=
  readText none reported text memory

def preferGraphicsCapture (reported : Int) (text : List UInt16) (memory : Nat → UInt16) :
    Option Bool :=
  (getWindowText reported text memory).map fun windowText =>
    windowText.any (Unicode.toUtf8 "Mozilla Firefox".toList).isSuffixOf

theorem readText_eq {withoutText : Option (List UInt8)} {reported : Nat} {text : List UInt16}
    (memory : Nat → UInt16) (nonempty : text ≠ []) (fits : text.length ≤ reported)
    (short : reported < 2147483647) :
    ∃ unwritten, unwritten.length = reported - text.length ∧
      readText withoutText reported text memory =
        (Icux.toUtf8 ((text ++ 0 :: unwritten).take reported)).map some := by
  have positive := List.length_pos_iff.mpr nonempty
  have size : ((reported : Int) + 1).toNat = reported + 1 := rfl
  have capacity : (((List.range (reported + 1)).map memory).length) - 1 = reported := by
    rw [List.length_map, List.length_range, Nat.add_sub_cancel]
  have taken : text.take reported = text := List.take_of_length_le fits
  refine ⟨((List.range (reported + 1)).map memory).drop (text.length + 1), ?_, ?_⟩
  · rw [List.length_drop, List.length_map, List.length_range]
    omega
  · rw [readText, CheckedInt.add, CheckedInt.exact_of_inRange ⟨by omega, by omega⟩,
      Option.bind_some, if_pos (by omega)]
    simp only [size, copyText, capacity, taken, Nat.add_sub_cancel]
    rw [if_pos (by omega), List.take_set_of_le (Nat.le_refl _)]

theorem readText_nil {withoutText : Option (List UInt8)} {reported : Int}
    (memory : Nat → UInt16) (positive : 0 < reported) (short : reported < 2147483647) :
    readText withoutText reported [] memory = some none := by
  rw [readText, CheckedInt.add, CheckedInt.exact_of_inRange ⟨by omega, by omega⟩,
    Option.bind_some, if_pos (by omega)]
  simp only [copyText, List.take_nil, List.length_nil]
  exact if_neg fun notZero => notZero rfl

section WellFormed

variable {characters : List Char} {withoutText : Option (List UInt8)} (memory : Nat → UInt16)

theorem readText_of_exact (nonempty : Unicode.toUtf16 characters ≠ [])
    (counted : (Unicode.toUtf16 characters).length < 2147483647) :
    readText withoutText (Unicode.toUtf16 characters).length (Unicode.toUtf16 characters) memory =
      (Icux.toUtf8 (Unicode.toUtf16 characters)).map some := by
  obtain ⟨unwritten, -, result⟩ :=
    @readText_eq withoutText _ _ memory nonempty (Nat.le_refl _) counted
  rw [result, List.take_left]

/-- The terminator that was copied is a character of the result. -/
theorem readText_of_more {reported : Nat} (nonempty : Unicode.toUtf16 characters ≠ [])
    (more : (Unicode.toUtf16 characters).length < reported) (short : reported < 2147483647) :
    readText withoutText reported (Unicode.toUtf16 characters) memory ≠
      some (some (Unicode.toUtf8 characters)) := by
  intro returned
  obtain ⟨unwritten, count, result⟩ := @readText_eq withoutText _ _ memory nonempty
    (Nat.le_of_lt more) short
  obtain ⟨rest, left⟩ : ∃ rest, (Unicode.toUtf16 characters ++ 0 :: unwritten).take reported =
      Unicode.toUtf16 characters ++ 0 :: rest := by
    have beyond : reported - (Unicode.toUtf16 characters).length =
        reported - (Unicode.toUtf16 characters).length - 1 + 1 := by omega
    rw [List.take_append, List.take_of_length_le (Nat.le_of_lt more), beyond, List.take_succ_cons]
    exact ⟨_, rfl⟩
  have length := congrArg List.length left
  rw [List.length_take] at length
  rw [result, left, Option.map_eq_some_iff] at returned
  obtain ⟨bytes, converted, same⟩ := returned
  rw [Option.some.inj same] at converted
  have noCharacter := Icux.noCharacter_of_toUtf8
    (fun empty => nonempty (by rw [empty]; rfl)) converted (by omega)
  rw [pieces_cons_of_not_lead (by decide)] at noCharacter
  cases (List.forall_mem_cons.mp noCharacter).1

theorem readText_iff {reported : Nat} (nonempty : Unicode.toUtf16 characters ≠ [])
    (bound : (Unicode.toUtf16 characters).length ≤ reported) (isInt : reported ≤ 2147483647) :
    readText withoutText reported (Unicode.toUtf16 characters) memory =
        some (some (Unicode.toUtf8 characters)) ↔
      reported = (Unicode.toUtf16 characters).length ∧ reported < 2 ^ 29 := by
  by_cases last : reported = 2147483647
  · subst last
    constructor
    · intro returned
      cases returned
    · omega
  · by_cases more : (Unicode.toUtf16 characters).length < reported
    · constructor
      · intro returned
        exact absurd returned (readText_of_more memory nonempty more (by omega))
      · omega
    · obtain rfl : (Unicode.toUtf16 characters).length = reported := by omega
      rw [readText_of_exact memory nonempty (by omega)]
      constructor
      · intro returned
        refine ⟨rfl, ?_⟩
        by_contra long
        rw [Icux.toUtf8_of_long (by omega) (by omega)] at returned
        cases returned
      · rintro ⟨-, short⟩
        rw [Icux.toUtf8_toUtf16 short]
        rfl

theorem getWinText_nil_iff {reported : Nat} (isInt : (reported : Int) ≤ 2147483647) :
    getWinText reported [] memory = some (some []) ↔
      (reported : Int) = 0 ∧ (reported : Int) < 2 ^ 29 := by
  cases reported with
  | zero => exact ⟨fun _ => ⟨rfl, by decide⟩, fun _ => rfl⟩
  | succ count =>
      constructor
      · intro returned
        by_cases last : count + 1 = 2147483647
        · rw [last] at returned
          cases returned
        · rw [getWinText, readText_nil memory (by omega) (by omega)] at returned
          cases returned
      · omega

/-- The text is returned as it is where the window has reported its length, and nowhere else. -/
theorem getWinText_iff {reported : Int} (bound : (Unicode.toUtf16 characters).length ≤ reported)
    (isInt : reported ≤ 2147483647) :
    getWinText reported (Unicode.toUtf16 characters) memory =
        some (some (Unicode.toUtf8 characters)) ↔
      reported = (Unicode.toUtf16 characters).length ∧ reported < 2 ^ 29 := by
  obtain ⟨count, rfl⟩ := Int.eq_ofNat_of_zero_le (show 0 ≤ reported by omega)
  cases characters with
  | nil => exact getWinText_nil_iff memory isInt
  | cons c characters =>
      have nonempty : Unicode.toUtf16 (c :: characters) ≠ [] := toUtf16_cons_ne_nil c characters
      rw [getWinText, readText_iff memory nonempty (by omega) (by omega)]
      omega

theorem getWinText_iff_letter :
    getWinText 1 (Unicode.toUtf16 ['A']) (fun _ => 0xcdcd) = some (some (Unicode.toUtf8 ['A'])) ↔
      (1 : Int) = (Unicode.toUtf16 ['A']).length ∧ (1 : Int) < 2 ^ 29 :=
  getWinText_iff (fun _ => 0xcdcd) (by decide) (by decide)

/-- Reported one longer than it is. -/
theorem terminator_returned :
    getWinText 2 (Unicode.toUtf16 ['A']) (fun _ => 0xcdcd) =
        some (some (Unicode.toUtf8 ['A', '\x00'])) ∧
      Unicode.toUtf8 ['A', '\x00'] ≠ Unicode.toUtf8 ['A'] := by
  decide

end WellFormed

end LeanMiniViews.WindowText
