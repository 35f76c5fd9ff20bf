import Mathlib.Data.Char
import Mathlib.Data.List.Basic
import Mathlib.Data.List.TakeWhile
import Mathlib.Tactic.Ring

/-!
Numbers in text, as the C library reads and writes them. `scan` gives the exact number at the
front of a text and what follows it; the functions of the library bring it into a range.
-/

namespace Strtol

def isBlank (c : Char) : Bool := c == ' ' || ('\t' ≤ c && c ≤ '\r')

def digitValue (c : Char) : Option Nat :=
  if '0' ≤ c ∧ c ≤ '9' then some (c.toNat - 48)
  else if 'a' ≤ c ∧ c ≤ 'z' then some (c.toNat - 87)
  else if 'A' ≤ c ∧ c ≤ 'Z' then some (c.toNat - 55)
  else none

def isDigit (base : Nat) (c : Char) : Bool := (digitValue c).any fun value => value < base

def digitOf (c : Char) : Nat := (digitValue c).getD 0

def valueOf (base : Nat) (digits : List Char) : Nat :=
  digits.foldl (fun value c => base * value + digitOf c) 0

def scanDigits (base : Nat) (text : List Char) : Option (Nat × List Char) :=
  match text.takeWhile (isDigit base) with
  | [] => none
  | digits => some (valueOf base digits, text.dropWhile (isDigit base))

/-- What follows `0x`, if that is a hexadecimal digit. -/
def afterHexMark : List Char → Option (List Char)
  | '0' :: mark :: digit :: rest =>
      if (mark = 'x' ∨ mark = 'X') ∧ isDigit 16 digit then some (digit :: rest) else none
  | _ => none

/-- Base 0 leaves the choice of the base to the text. -/
def scanMagnitude (base : Nat) (text : List Char) : Option (Nat × List Char) :=
  match base with
  | 0 =>
      match afterHexMark text with
      | some digits => scanDigits 16 digits
      | none => if text.head? = some '0' then scanDigits 8 text else scanDigits 10 text
  | 16 => scanDigits 16 ((afterHexMark text).getD text)
  | _ => scanDigits base text

/-- Whether there is a minus sign, and what follows the sign. -/
def splitSign : List Char → Bool × List Char
  | '-' :: rest => (true, rest)
  | '+' :: rest => (false, rest)
  | text => (false, text)

/-- The base in which a text is read if that is left to the text. -/
def detectedBase (text : List Char) : Nat :=
  let magnitude := (splitSign (text.dropWhile isBlank)).2
  if (afterHexMark magnitude).isSome then 16
  else if magnitude.head? = some '0' then 8
  else 10

def scan (base : Nat) (text : List Char) : Option (Int × List Char) :=
  let signed := splitSign (text.dropWhile isBlank)
  (scanMagnitude base signed.2).map fun found =>
    (if signed.1 then -(found.1 : Int) else found.1, found.2)

structure Conversion where
  value : Int
  rest : List Char
  rangeError : Bool
deriving DecidableEq, Repr

/-- Without a number nothing of the text is used. -/
def strtoll (base : Nat) (text : List Char) : Conversion :=
  match scan base text with
  | none => ⟨0, text, false⟩
  | some (value, rest) =>
      if value > 9223372036854775807 then ⟨9223372036854775807, rest, true⟩
      else if value < -9223372036854775808 then ⟨-9223372036854775808, rest, true⟩
      else ⟨value, rest, false⟩

/-- For an `unsigned long` of 32 bits, where a negative number wraps around. -/
def strtoul (base : Nat) (text : List Char) : Nat :=
  match scan base text with
  | none => 0
  | some (value, _) => if value.natAbs > 4294967295 then 4294967295 else (value % 4294967296).toNat

/-- `std::to_string` -/
def decimal (value : Int) : List Char :=
  if value < 0 then '-' :: Nat.toDigits 10 value.natAbs else Nat.toDigits 10 value.natAbs

/-! Literals: the texts that are a number and nothing else. -/

inductive Magnitude : List Char → Nat → Prop where
  | decimal (first : Char) (rest : List Char) (nonzero : first ≠ '0')
      (digits : ∀ c ∈ first :: rest, isDigit 10 c = true) :
      Magnitude (first :: rest) (valueOf 10 (first :: rest))
  | octal (rest : List Char) (digits : ∀ c ∈ rest, isDigit 8 c = true) :
      Magnitude ('0' :: rest) (valueOf 8 rest)
  | hexadecimal (mark : Char) (rest : List Char) (marked : mark = 'x' ∨ mark = 'X')
      (nonempty : rest ≠ []) (digits : ∀ c ∈ rest, isDigit 16 c = true) :
      Magnitude ('0' :: mark :: rest) (valueOf 16 rest)

inductive Literal : List Char → Int → Prop where
  | plain (blanks body : List Char) (value : Nat) (leading : ∀ c ∈ blanks, isBlank c = true)
      (magnitude : Magnitude body value) : Literal (blanks ++ body) value
  | plus (blanks body : List Char) (value : Nat) (leading : ∀ c ∈ blanks, isBlank c = true)
      (magnitude : Magnitude body value) : Literal (blanks ++ '+' :: body) value
  | minus (blanks body : List Char) (value : Nat) (leading : ∀ c ∈ blanks, isBlank c = true)
      (magnitude : Magnitude body value) : Literal (blanks ++ '-' :: body) (-value)

/-! Digits. -/

theorem isDigit_iff {base : Nat} {c : Char} :
    isDigit base c = true ↔ ∃ value, digitValue c = some value ∧ value < base := by
  simp [isDigit, Option.any_eq_true]

theorem digitValue_of_blank {c : Char} (blank : isBlank c = true) : digitValue c = none := by
  have below {first : Char} (above : '\r' < first) (large : ' ' < first) : ¬ first ≤ c := by
    simp only [isBlank, Bool.or_eq_true, beq_iff_eq, Bool.and_eq_true, decide_eq_true_eq] at blank
    rcases blank with rfl | ⟨-, small⟩
    · exact not_le_of_gt large
    · exact not_le_of_gt (small.trans_lt above)
  simp [digitValue, below]

theorem isDigit_not_blank {base : Nat} {c : Char} (digit : isDigit base c = true) :
    isBlank c = false := by
  obtain ⟨value, found, -⟩ := isDigit_iff.mp digit
  by_contra blank
  rw [digitValue_of_blank (eq_true_of_ne_false blank)] at found
  cases found

theorem scanDigits_eq_nil_iff {base : Nat} {text : List Char} {value : Nat} :
    scanDigits base text = some (value, []) ↔
      text ≠ [] ∧ (∀ c ∈ text, isDigit base c = true) ∧ value = valueOf base text := by
  constructor
  · intro scanned
    simp only [scanDigits] at scanned
    split at scanned
    · cases scanned
    · rename_i digits nonempty
      simp only [Option.some.injEq, Prod.mk.injEq, List.dropWhile_eq_nil_iff] at scanned
      have whole : text.takeWhile (isDigit base) = text := by
        rw [List.takeWhile_eq_self_iff]
        exact scanned.2
      rw [whole] at nonempty
      refine ⟨fun empty => nonempty empty, scanned.2, ?_⟩
      rw [← scanned.1, whole]
  · rintro ⟨nonempty, digits, rfl⟩
    have whole : text.takeWhile (isDigit base) = text := List.takeWhile_eq_self_iff.mpr digits
    have nothing : text.dropWhile (isDigit base) = [] := List.dropWhile_eq_nil_iff.mpr digits
    simp only [scanDigits, whole, nothing]

theorem afterHexMark_eq_some_iff {text digits : List Char} :
    afterHexMark text = some digits ↔
      ∃ mark digit rest, (mark = 'x' ∨ mark = 'X') ∧ isDigit 16 digit = true ∧
        digits = digit :: rest ∧ text = '0' :: mark :: digit :: rest := by
  constructor
  · intro marked
    simp only [afterHexMark] at marked
    split at marked
    · rename_i mark digit rest
      split at marked
      · rename_i isMark
        cases marked
        exact ⟨mark, digit, rest, isMark.1, isMark.2, rfl, rfl⟩
      · cases marked
    · cases marked
  · rintro ⟨mark, digit, rest, isMark, isDigit, rfl, rfl⟩
    simp [afterHexMark, isMark, isDigit]

theorem afterHexMark_of_ne {first : Char} (nonzero : first ≠ '0') (rest : List Char) :
    afterHexMark (first :: rest) = none := by
  rw [Option.eq_none_iff_forall_ne_some]
  intro digits marked
  obtain ⟨mark, digit, tail, -, -, -, text⟩ := afterHexMark_eq_some_iff.mp marked
  exact nonzero (List.cons.inj text).1

theorem afterHexMark_of_octal {rest : List Char} (digits : ∀ c ∈ rest, isDigit 8 c = true) :
    afterHexMark ('0' :: rest) = none := by
  rw [Option.eq_none_iff_forall_ne_some]
  intro after marked
  obtain ⟨mark, digit, tail, isMark, -, -, text⟩ := afterHexMark_eq_some_iff.mp marked
  have markDigit := digits mark (by simp [(List.cons.inj text).2])
  rcases isMark with rfl | rfl <;> exact absurd markDigit (by decide)

theorem valueOf_zero_cons (base : Nat) (rest : List Char) :
    valueOf base ('0' :: rest) = valueOf base rest := by
  simp [valueOf, digitOf, digitValue]

theorem digitOf_lt {base : Nat} {c : Char} (digit : isDigit base c = true) : digitOf c < base := by
  obtain ⟨value, found, small⟩ := isDigit_iff.mp digit
  simpa [digitOf, found] using small

theorem foldl_digits (base init : Nat) (digits : List Char) :
    digits.foldl (fun value c => base * value + digitOf c) init =
      init * base ^ digits.length + valueOf base digits := by
  induction digits generalizing init with
  | nil => simp [valueOf]
  | cons first rest ih =>
      rw [valueOf, List.foldl_cons, List.foldl_cons, ih, ih, List.length_cons, Nat.pow_succ]
      ring

theorem valueOf_cons (base : Nat) (first : Char) (rest : List Char) :
    valueOf base (first :: rest) = digitOf first * base ^ rest.length + valueOf base rest := by
  rw [valueOf, List.foldl_cons, foldl_digits, Nat.mul_zero, Nat.zero_add]

theorem valueOf_lt {base : Nat} {digits : List Char} (only : ∀ c ∈ digits, isDigit base c = true) :
    valueOf base digits < base ^ digits.length := by
  induction digits with
  | nil => simp [valueOf]
  | cons first rest ih =>
      have small := digitOf_lt (only first List.mem_cons_self)
      have later := ih fun c member => only c (List.mem_cons_of_mem _ member)
      calc valueOf base (first :: rest)
          = digitOf first * base ^ rest.length + valueOf base rest := valueOf_cons base first rest
        _ < digitOf first * base ^ rest.length + base ^ rest.length := Nat.add_lt_add_left later _
        _ = (digitOf first + 1) * base ^ rest.length := (Nat.succ_mul _ _).symm
        _ ≤ base * base ^ rest.length := Nat.mul_le_mul_right _ small
        _ = base ^ (first :: rest).length := by rw [List.length_cons, Nat.pow_succ, Nat.mul_comm]

/-! The scan against the literals. -/

theorem scanMagnitude_of_unmarked {text : List Char} (unmarked : afterHexMark text = none) :
    scanMagnitude 0 text =
      if text.head? = some '0' then scanDigits 8 text else scanDigits 10 text := by
  simp only [scanMagnitude, unmarked]

theorem scanMagnitude_of_marked {text digits : List Char}
    (marked : afterHexMark text = some digits) :
    scanMagnitude 0 text = scanDigits 16 digits := by
  simp only [scanMagnitude, marked]

theorem magnitude_of_scan {text : List Char} {value : Nat}
    (scanned : scanMagnitude 0 text = some (value, [])) : Magnitude text value := by
  cases marked : afterHexMark text with
  | some digits =>
      rw [scanMagnitude_of_marked marked, scanDigits_eq_nil_iff] at scanned
      obtain ⟨nonempty, digitsOnly, rfl⟩ := scanned
      obtain ⟨mark, digit, rest, isMark, -, rfl, rfl⟩ := afterHexMark_eq_some_iff.mp marked
      exact .hexadecimal mark _ isMark nonempty digitsOnly
  | none =>
      rw [scanMagnitude_of_unmarked marked] at scanned
      split at scanned
      · rename_i zero
        obtain ⟨nonempty, digitsOnly, rfl⟩ := scanDigits_eq_nil_iff.mp scanned
        obtain ⟨rest, rfl⟩ := List.head?_eq_some_iff.mp zero
        rw [valueOf_zero_cons]
        exact .octal rest fun c member => digitsOnly c (List.mem_cons_of_mem _ member)
      · rename_i nonzero
        obtain ⟨nonempty, digitsOnly, rfl⟩ := scanDigits_eq_nil_iff.mp scanned
        obtain ⟨first, rest, rfl⟩ := List.exists_cons_of_ne_nil nonempty
        exact .decimal first rest (by simpa using nonzero) digitsOnly

theorem scan_of_magnitude {text : List Char} {value : Nat} (magnitude : Magnitude text value) :
    scanMagnitude 0 text = some (value, []) := by
  cases magnitude with
  | decimal first rest nonzero digits =>
      rw [scanMagnitude_of_unmarked (afterHexMark_of_ne nonzero rest),
        if_neg (by simpa using nonzero)]
      exact scanDigits_eq_nil_iff.mpr ⟨by simp, digits, rfl⟩
  | octal rest digits =>
      rw [scanMagnitude_of_unmarked (afterHexMark_of_octal digits),
        if_pos List.head?_cons]
      refine scanDigits_eq_nil_iff.mpr ⟨by simp, ?_, (valueOf_zero_cons 8 rest).symm⟩
      intro c member
      rcases List.mem_cons.mp member with rfl | later
      · rfl
      · exact digits c later
  | hexadecimal mark rest marked nonempty digits =>
      obtain ⟨digit, tail, rfl⟩ := List.exists_cons_of_ne_nil nonempty
      have isMarked : afterHexMark ('0' :: mark :: digit :: tail) = some (digit :: tail) :=
        afterHexMark_eq_some_iff.mpr
          ⟨mark, digit, tail, marked, digits digit List.mem_cons_self, rfl, rfl⟩
      rw [scanMagnitude_of_marked isMarked]
      exact scanDigits_eq_nil_iff.mpr ⟨nonempty, digits, rfl⟩

theorem magnitude_first {text : List Char} {value : Nat} (magnitude : Magnitude text value) :
    ∃ first rest, text = first :: rest ∧ isDigit 10 first = true := by
  cases magnitude with
  | decimal first rest nonzero digits => exact ⟨first, rest, rfl, digits first List.mem_cons_self⟩
  | octal rest digits => exact ⟨'0', rest, rfl, rfl⟩
  | hexadecimal mark rest marked nonempty digits => exact ⟨'0', mark :: rest, rfl, rfl⟩

theorem splitSign_cases (text : List Char) :
    (∃ rest, text = '-' :: rest ∧ splitSign text = (true, rest)) ∨
      (∃ rest, text = '+' :: rest ∧ splitSign text = (false, rest)) ∨
      splitSign text = (false, text) := by
  unfold splitSign
  split <;> simp

theorem splitSign_of_digit {base : Nat} {first : Char} (digit : isDigit base first = true)
    (rest : List Char) : splitSign (first :: rest) = (false, first :: rest) := by
  have value := isDigit_iff.mp digit
  rcases splitSign_cases (first :: rest) with ⟨_, same, -⟩ | ⟨_, same, -⟩ | unsigned
  · obtain rfl := (List.cons.inj same).1
    simp [digitValue] at value
  · obtain rfl := (List.cons.inj same).1
    simp [digitValue] at value
  · exact unsigned

theorem dropWhile_blanks {blanks : List Char} {first : Char}
    (leading : ∀ c ∈ blanks, isBlank c = true) (nonblank : isBlank first = false)
    (rest : List Char) : (blanks ++ first :: rest).dropWhile isBlank = first :: rest := by
  rw [List.dropWhile_append_of_pos leading, List.dropWhile_cons_of_neg (by simp [nonblank])]

theorem literal_of_signed {blanks body : List Char} {value : Nat}
    (leading : ∀ c ∈ blanks, isBlank c = true) (magnitude : Magnitude (splitSign body).2 value) :
    Literal (blanks ++ body) (if (splitSign body).1 then -(value : Int) else value) := by
  rcases splitSign_cases body with ⟨rest, rfl, split⟩ | ⟨rest, rfl, split⟩ | split <;>
    rw [split] at magnitude ⊢
  · exact .minus blanks rest value leading magnitude
  · exact .plus blanks rest value leading magnitude
  · exact .plain blanks body value leading magnitude

theorem literal_of_scan {text : List Char} {value : Int}
    (scanned : scan 0 text = some (value, [])) : Literal text value := by
  simp only [scan, Option.map_eq_some_iff, Prod.mk.injEq] at scanned
  obtain ⟨⟨magnitude, rest⟩, found, rfl, rfl⟩ := scanned
  have leading : ∀ c ∈ text.takeWhile isBlank, isBlank c = true :=
    fun c member => List.mem_takeWhile_imp member
  have literal := literal_of_signed leading (magnitude_of_scan found)
  rwa [List.takeWhile_append_dropWhile] at literal

theorem scan_of_literal {text : List Char} {value : Int} (literal : Literal text value) :
    scan 0 text = some (value, []) := by
  cases literal with
  | plain blanks body value leading magnitude =>
      obtain ⟨first, rest, rfl, digit⟩ := magnitude_first magnitude
      simp [scan, dropWhile_blanks leading (isDigit_not_blank digit), splitSign_of_digit digit,
        scan_of_magnitude magnitude]
  | plus blanks body value leading magnitude =>
      simp [scan, dropWhile_blanks leading (show isBlank '+' = false from rfl), splitSign,
        scan_of_magnitude magnitude]
  | minus blanks body value leading magnitude =>
      simp [scan, dropWhile_blanks leading (show isBlank '-' = false from rfl), splitSign,
        scan_of_magnitude magnitude]

/-- The scan uses up exactly the literals. -/
theorem scan_eq_nil_iff {text : List Char} {value : Int} :
    scan 0 text = some (value, []) ↔ Literal text value :=
  ⟨literal_of_scan, scan_of_literal⟩

/-! What is written is a literal. -/

theorem digitValue_of_isDigit {c : Char} (digit : c.isDigit = true) :
    digitValue c = some (c.toNat - 48) := by
  have bounds : '0' ≤ c ∧ c ≤ '9' := by simpa [Char.isDigit, Char.le_def] using digit
  rw [digitValue, if_pos bounds]

theorem isDigit_ten {c : Char} (digit : c.isDigit = true) : isDigit 10 c = true := by
  have bounds := Char.isDigit_iff_toNat.mp digit
  refine isDigit_iff.mpr ⟨_, digitValue_of_isDigit digit, ?_⟩
  have last : '9'.toNat = 57 := rfl
  omega

theorem valueOf_eq_ofDigitChars {base : Nat} {digits : List Char}
    (only : ∀ c ∈ digits, c.isDigit = true) :
    valueOf base digits = Nat.ofDigitChars base digits 0 := by
  rw [valueOf, Nat.ofDigitChars_eq_foldl]
  refine List.foldl_ext _ _ _ fun value c member => ?_
  simp [digitOf, digitValue_of_isDigit (only c member)]

theorem toDigits_head {value : Nat} (positive : 0 < value) :
    (Nat.toDigits 10 value).head? ≠ some '0' := by
  induction value using Nat.strongRecOn with
  | _ value ih =>
      by_cases small : value < 10
      · rw [Nat.toDigits_of_lt_base small, List.head?_cons]
        simpa using positive.ne'
      · have later := ih (value / 10) (by omega) (by omega)
        rw [Nat.toDigits_of_base_le (by omega) (by omega), List.head?_append]
        cases first : (Nat.toDigits 10 (value / 10)).head? with
        | none => exact absurd (List.head?_eq_none_iff.mp first) Nat.toDigits_ne_nil
        | some c => rwa [first] at later

theorem isDigit_of_mem_toDigits {value : Nat} {c : Char} (member : c ∈ Nat.toDigits 10 value) :
    isDigit 10 c = true :=
  isDigit_ten (Nat.isDigit_of_mem_toDigits (by omega) (by omega) member)

theorem valueOf_toDigits (value : Nat) : valueOf 10 (Nat.toDigits 10 value) = value := by
  have only : ∀ c ∈ Nat.toDigits 10 value, c.isDigit = true :=
    fun c member => Nat.isDigit_of_mem_toDigits (by omega) (by omega) member
  rw [valueOf_eq_ofDigitChars only, Nat.ofDigitChars_ten_toDigits]

theorem magnitude_toDigits (value : Nat) : Magnitude (Nat.toDigits 10 value) value := by
  by_cases zero : value = 0
  · subst zero
    rw [Nat.toDigits_zero]
    exact .octal [] (by simp)
  · have only : ∀ c ∈ Nat.toDigits 10 value, isDigit 10 c = true :=
      fun c member => isDigit_of_mem_toDigits member
    have nonzero := toDigits_head (Nat.pos_of_ne_zero zero)
    have written := valueOf_toDigits value
    obtain ⟨first, rest, text⟩ :=
      List.exists_cons_of_ne_nil (show Nat.toDigits 10 value ≠ [] from Nat.toDigits_ne_nil)
    rw [text] at only nonzero written ⊢
    have magnitude : Magnitude (first :: rest) (valueOf 10 (first :: rest)) :=
      .decimal first rest (by simpa using nonzero) only
    rwa [written] at magnitude

theorem literal_decimal (value : Int) : Literal (decimal value) value := by
  have magnitude := magnitude_toDigits value.natAbs
  unfold decimal
  split
  · rename_i negative
    have literal := Literal.minus [] _ _ (by simp) magnitude
    rwa [Int.ofNat_natAbs_of_nonpos (by omega), Int.neg_neg, List.nil_append] at literal
  · rename_i nonneg
    have literal := Literal.plain [] _ _ (by simp) magnitude
    rwa [Int.natAbs_of_nonneg (by omega), List.nil_append] at literal

theorem splitSign_decimal (value : Int) :
    splitSign ((decimal value).dropWhile isBlank) =
      (decide (value < 0), Nat.toDigits 10 value.natAbs) := by
  unfold decimal
  split
  · rename_i negative
    rw [List.dropWhile_cons_of_neg (by decide), splitSign, decide_eq_true negative]
  · rename_i nonneg
    obtain ⟨first, rest, text⟩ := List.exists_cons_of_ne_nil
      (show Nat.toDigits 10 value.natAbs ≠ [] from Nat.toDigits_ne_nil)
    have digit : isDigit 10 first = true := by
      refine @isDigit_of_mem_toDigits value.natAbs first ?_
      rw [text]
      exact List.mem_cons_self
    rw [text, List.dropWhile_cons_of_neg (by simp [isDigit_not_blank digit]),
      splitSign_of_digit digit, decide_eq_false nonneg]

theorem afterHexMark_toDigits (value : Nat) : afterHexMark (Nat.toDigits 10 value) = none := by
  rw [Option.eq_none_iff_forall_ne_some]
  intro after marked
  obtain ⟨mark, digit, tail, isMark, -, -, text⟩ := afterHexMark_eq_some_iff.mp marked
  have markDigit : isDigit 10 mark = true := by
    refine @isDigit_of_mem_toDigits value mark ?_
    simp [text]
  rcases isMark with rfl | rfl <;> exact absurd markDigit (by decide)

/-- No number but `0` is written with a first digit that would make it octal. -/
theorem detectedBase_decimal {value : Int} (nonzero : value ≠ 0) :
    detectedBase (decimal value) = 10 := by
  have leading := toDigits_head (Int.natAbs_pos.mpr nonzero)
  simp [detectedBase, splitSign_decimal, afterHexMark_toDigits, leading]

theorem scan_of_detected_ten {text : List Char} (ten : detectedBase text = 10) :
    scan 0 text = scan 10 text := by
  simp only [detectedBase] at ten
  simp only [scan]
  congr 1
  split at ten
  · cases ten
  · rename_i unmarked
    split at ten
    · cases ten
    · rename_i nonzero
      rw [scanMagnitude_of_unmarked (by simpa using unmarked), if_neg nonzero]
      rfl

theorem strtoll_decimal_detected (value : Int) :
    strtoll 0 (decimal value) = strtoll 10 (decimal value) := by
  by_cases zero : value = 0
  · subst zero
    rfl
  · simp only [strtoll, scan_of_detected_ten (detectedBase_decimal zero)]

/-! The conversions. -/

theorem strtoll_of_fits {base : Nat} {text rest : List Char} {value : Int}
    (scanned : scan base text = some (value, rest)) (lower : -9223372036854775808 ≤ value)
    (upper : value ≤ 9223372036854775807) :
    strtoll base text = ⟨value, rest, false⟩ := by
  simp only [strtoll, scanned]
  rw [if_neg (by omega), if_neg (by omega)]

theorem strtoll_ne_zero {base : Nat} {text rest : List Char} {value : Int}
    (scanned : scan base text = some (value, rest)) (nonzero : value ≠ 0) :
    (strtoll base text).value ≠ 0 := by
  simp only [strtoll, scanned]
  split
  · simp
  · split
    · simp
    · exact nonzero

theorem scan_sixteen {digits : List Char} (nonempty : digits ≠ [])
    (only : ∀ c ∈ digits, isDigit 16 c = true) :
    scan 16 digits = some ((valueOf 16 digits : Int), []) := by
  obtain ⟨first, rest, rfl⟩ := List.exists_cons_of_ne_nil nonempty
  have unmarked : afterHexMark (first :: rest) = none := by
    rw [Option.eq_none_iff_forall_ne_some]
    intro after marked
    obtain ⟨mark, digit, tail, isMark, -, -, text⟩ := afterHexMark_eq_some_iff.mp marked
    have markDigit := only mark (by simp [text])
    rcases isMark with rfl | rfl <;> exact absurd markDigit (by decide)
  have digit := only first List.mem_cons_self
  have scanned : scanDigits 16 (first :: rest) = some (valueOf 16 (first :: rest), []) :=
    scanDigits_eq_nil_iff.mpr ⟨nonempty, only, rfl⟩
  simp [scan, List.dropWhile_cons_of_neg, isDigit_not_blank digit,
    splitSign_of_digit digit, scanMagnitude, unmarked, scanned]

theorem strtoul_sixteen {digits : List Char} (nonempty : digits ≠ [])
    (only : ∀ c ∈ digits, isDigit 16 c = true) (short : digits.length ≤ 8) :
    strtoul 16 digits = valueOf 16 digits := by
  have small : valueOf 16 digits < 4294967296 :=
    (valueOf_lt only).trans_le (Nat.pow_le_pow_right (by decide) short)
  simp only [strtoul, scan_sixteen nonempty only]
  rw [if_neg (by omega)]
  omega

/-! Numbers of a fixed width. -/

def padded (fill : Char) (width value : Nat) : List Char :=
  List.replicate (width - (Nat.toDigits 10 value).length) fill ++ Nat.toDigits 10 value

theorem length_padded (fill : Char) {width value : Nat} (positive : 0 < width)
    (fits : value < 10 ^ width) : (padded fill width value).length = width := by
  have short : (Nat.toDigits 10 value).length ≤ width :=
    (Nat.length_toDigits_le_iff (by omega) positive).mpr fits
  rw [padded, List.length_append, List.length_replicate]
  omega

theorem scan_ten {blanks digits : List Char} (leading : ∀ c ∈ blanks, isBlank c = true)
    (nonempty : digits ≠ []) (only : ∀ c ∈ digits, isDigit 10 c = true) :
    scan 10 (blanks ++ digits) = some ((valueOf 10 digits : Int), []) := by
  obtain ⟨first, rest, rfl⟩ := List.exists_cons_of_ne_nil nonempty
  have digit := only first List.mem_cons_self
  have scanned : scanMagnitude 10 (first :: rest) = some (valueOf 10 (first :: rest), []) :=
    scanDigits_eq_nil_iff.mpr ⟨nonempty, only, rfl⟩
  simp [scan, dropWhile_blanks leading (isDigit_not_blank digit), splitSign_of_digit digit, scanned]

theorem valueOf_zeros (base count : Nat) (digits : List Char) :
    valueOf base (List.replicate count '0' ++ digits) = valueOf base digits := by
  induction count with
  | zero => rfl
  | succ count ih => rw [List.replicate_succ, List.cons_append, valueOf_zero_cons, ih]

theorem scan_ten_blank_padded {fill : Char} (blank : isBlank fill = true) (width value : Nat) :
    scan 10 (padded fill width value) = some ((value : Int), []) := by
  have leading : ∀ c ∈ List.replicate (width - (Nat.toDigits 10 value).length) fill,
      isBlank c = true := by
    intro c member
    rwa [List.eq_of_mem_replicate member]
  rw [padded, scan_ten leading Nat.toDigits_ne_nil fun c member => isDigit_of_mem_toDigits member,
    valueOf_toDigits]

theorem scan_ten_zero_padded (width value : Nat) :
    scan 10 (padded '0' width value) = some ((value : Int), []) := by
  have only : ∀ c ∈ padded '0' width value, isDigit 10 c = true := by
    intro c member
    rcases List.mem_append.mp member with zero | digit
    · rw [List.eq_of_mem_replicate zero]
      rfl
    · exact isDigit_of_mem_toDigits digit
  have nonempty : padded '0' width value ≠ [] :=
    List.append_ne_nil_of_right_ne_nil _ Nat.toDigits_ne_nil
  have scanned := scan_ten (fun c member => absurd member List.not_mem_nil) nonempty only
  rwa [List.nil_append, padded, valueOf_zeros, valueOf_toDigits, ← padded] at scanned

end Strtol
