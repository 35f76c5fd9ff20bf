import Mathlib.Data.List.Basic

/-!
Vectors of 32-bit words as the bytes they are stored in, and `memcmp` on a range of them. There
is no result where an access leaves the vector.
-/

namespace Memory

def wordBytes (word : UInt32) : List UInt8 :=
  [UInt8.ofNat word.toNat, UInt8.ofNat (word.toNat / 256), UInt8.ofNat (word.toNat / 65536),
    UInt8.ofNat (word.toNat / 16777216)]

def bytes (words : List UInt32) : List UInt8 := words.flatMap wordBytes

/-- The difference of the first two bytes that differ. -/
def compareBytes : List UInt8 → List UInt8 → Int
  | left :: lefts, right :: rights =>
      if left = right then compareBytes lefts rights else (left.toNat : Int) - right.toNat
  | _, _ => 0

/-- Both positions and the count are in bytes. -/
def memcmp (memory : List UInt8) (left right count : Nat) : Option Int :=
  if left + count ≤ memory.length ∧ right + count ≤ memory.length then
    some (compareBytes ((memory.drop left).take count) ((memory.drop right).take count))
  else none

theorem wordBytes_injective {left right : UInt32} (same : wordBytes left = wordBytes right) :
    left = right := by
  simp only [wordBytes, List.cons.injEq, and_true, ← UInt8.toNat_inj, UInt8.toNat_ofNat'] at same
  obtain ⟨first, second, third, fourth⟩ := same
  have leftBound := left.toNat_lt
  have rightBound := right.toNat_lt
  rw [← UInt32.toNat_inj]
  omega

@[simp] theorem bytes_nil : bytes [] = [] := rfl

@[simp] theorem bytes_cons (word : UInt32) (words : List UInt32) :
    bytes (word :: words) = wordBytes word ++ bytes words := rfl

@[simp] theorem bytes_length (words : List UInt32) : (bytes words).length = 4 * words.length := by
  induction words with
  | nil => rfl
  | cons word words ih =>
      simp only [bytes_cons, List.length_append, ih, List.length_cons]
      simp only [wordBytes, List.length_cons, List.length_nil]
      omega

theorem bytes_drop (words : List UInt32) (count : Nat) :
    (bytes words).drop (4 * count) = bytes (words.drop count) := by
  induction count generalizing words with
  | zero => simp
  | succ count ih =>
      cases words with
      | nil => simp
      | cons word words =>
          rw [List.drop_succ_cons, ← ih words, show 4 * (count + 1) = 4 * count + 4 by omega]
          simp [wordBytes]

theorem bytes_take (words : List UInt32) (count : Nat) :
    (bytes words).take (4 * count) = bytes (words.take count) := by
  induction count generalizing words with
  | zero => simp
  | succ count ih =>
      cases words with
      | nil => simp
      | cons word words =>
          rw [List.take_succ_cons, bytes_cons, bytes_cons, ← ih words,
            show 4 * (count + 1) = 4 * count + 4 by omega]
          simp [wordBytes]

theorem bytes_injective {lefts rights : List UInt32} (same : bytes lefts = bytes rights) :
    lefts = rights := by
  induction lefts generalizing rights with
  | nil =>
      have lengths := congrArg List.length same
      simp only [bytes_length, List.length_nil] at lengths
      exact (List.length_eq_zero_iff.mp (by omega)).symm
  | cons left lefts ih =>
      cases rights with
      | nil => simp [wordBytes] at same
      | cons right rights =>
          obtain ⟨head, tail⟩ := List.append_inj same rfl
          rw [wordBytes_injective head, ih tail]

theorem compareBytes_eq_zero_iff {lefts rights : List UInt8}
    (lengths : lefts.length = rights.length) :
    compareBytes lefts rights = 0 ↔ lefts = rights := by
  induction lefts generalizing rights with
  | nil => simp [compareBytes, List.length_eq_zero_iff.mp lengths.symm]
  | cons left lefts ih =>
      cases rights with
      | nil => simp at lengths
      | cons right rights =>
          simp only [compareBytes, List.cons.injEq]
          by_cases same : left = right
          · rw [if_pos same, ih (by simpa using lengths)]
            simp [same]
          · have differ : left.toNat ≠ right.toNat := fun eq => same (UInt8.toNat_inj.mp eq)
            rw [if_neg same]
            simp only [same, false_and, iff_false]
            omega

theorem take_drop_eq_iff {α : Type} {values : List α} {left right count : Nat} :
    (values.drop left).take count = (values.drop right).take count ↔
      ∀ index < count, values[left + index]? = values[right + index]? := by
  constructor
  · intro same index below
    have entries := congrArg (fun part => part[index]?) same
    simpa [List.getElem?_take, List.getElem?_drop, below] using entries
  · intro same
    refine List.ext_getElem? fun index => ?_
    by_cases below : index < count
    · simpa [List.getElem?_take, List.getElem?_drop, below] using same index below
    · rw [List.getElem?_take, List.getElem?_take, if_neg below, if_neg below]

theorem memcmp_bytes (words : List UInt32) (left right count : Nat)
    (leftBound : left + count ≤ words.length) (rightBound : right + count ≤ words.length) :
    ∃ order, memcmp (bytes words) (4 * left) (4 * right) (4 * count) = some order ∧
      (order = 0 ↔ ∀ index < count, words[left + index]? = words[right + index]?) := by
  have within : 4 * left + 4 * count ≤ (bytes words).length ∧
      4 * right + 4 * count ≤ (bytes words).length := by
    rw [bytes_length]
    omega
  refine ⟨_, if_pos within, ?_⟩
  rw [← take_drop_eq_iff, bytes_drop, bytes_drop, bytes_take, bytes_take,
    compareBytes_eq_zero_iff]
  · exact ⟨bytes_injective, congrArg bytes⟩
  · simp only [bytes_length, List.length_take, List.length_drop]
    omega

end Memory
