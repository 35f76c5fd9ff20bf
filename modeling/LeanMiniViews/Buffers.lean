import Mathlib.Data.List.Basic

/-!
Arrays written one element at a time, where an access outside of them has no result, and the
text that ends at a zero character.
-/

namespace Buffers

variable {α : Type}

def store (buffer : List α) (index : Nat) (value : α) : Option (List α) :=
  if index < buffer.length then some (buffer.set index value) else none

def storeAll : List α → Nat → List α → Option (List α)
  | buffer, _, [] => some buffer
  | buffer, index, value :: rest =>
      (store buffer index value).bind fun stored => storeAll stored (index + 1) rest

/-- `memset` -/
def fill (buffer : List α) (count : Nat) (value : α) : Option (List α) :=
  storeAll buffer 0 (List.replicate count value)

/-- The copying loop, from `sourceIndex` of the source to `index` of the buffer. -/
def copy (source : List α) : List α → Nat → Nat → Nat → Option (List α)
  | buffer, _, _, 0 => some buffer
  | buffer, index, sourceIndex, count + 1 =>
      source[sourceIndex]?.bind fun value =>
        (store buffer index value).bind fun stored =>
          copy source stored (index + 1) (sourceIndex + 1) count

/-- `memmove` inside of one buffer: all that is moved is read before any of it is written. -/
def move (buffer : List α) (index sourceIndex count : Nat) : Option (List α) :=
  if sourceIndex + count ≤ buffer.length then
    storeAll buffer index ((buffer.drop sourceIndex).take count)
  else none

def nul : Char := Char.ofNat 0

/-- What a function reads that is given no length. -/
def cString (buffer : List Char) : Option (List Char) :=
  if nul ∈ buffer then some (buffer.takeWhile fun c => c ≠ nul) else none

theorem store_eq {buffer : List α} {index : Nat} (inside : index < buffer.length) (value : α) :
    store buffer index value =
      some (buffer.take index ++ value :: buffer.drop (index + 1)) := by
  rw [store, if_pos inside, List.set_eq_take_append_cons_drop, if_pos inside]

theorem store_append (before : List α) (old value : α) (after : List α) :
    store (before ++ old :: after) before.length value = some (before ++ value :: after) := by
  simp [store]

theorem storeAll_append (before old values after : List α) (same : old.length = values.length) :
    storeAll (before ++ old ++ after) before.length values = some (before ++ values ++ after) := by
  induction values generalizing before old with
  | nil =>
      obtain rfl := List.eq_nil_of_length_eq_zero same
      rfl
  | cons value rest ih =>
      obtain ⟨first, later, rfl⟩ := List.exists_cons_of_length_eq_add_one same
      have shorter : later.length = rest.length := by simpa using same
      have stored := ih (before ++ [value]) later shorter
      simp only [storeAll, List.append_assoc, List.cons_append, store_append, Option.bind_some]
      simpa using stored

theorem copy_eq_storeAll (source buffer : List α) {index sourceIndex count : Nat}
    (inside : sourceIndex + count ≤ source.length) :
    copy source buffer index sourceIndex count =
      storeAll buffer index ((source.drop sourceIndex).take count) := by
  induction count generalizing buffer index sourceIndex with
  | zero => simp [copy, storeAll]
  | succ count ih =>
      have bound : sourceIndex < source.length := by omega
      rw [List.drop_eq_getElem_cons bound, List.take_succ_cons]
      simp only [copy, storeAll, List.getElem?_eq_getElem bound, Option.bind_some]
      congr 1
      funext stored
      exact ih stored (by omega)

theorem copy_front (source old after : List α) {sourceIndex count : Nat}
    (same : old.length = count) (inside : sourceIndex + count ≤ source.length) :
    copy source (old ++ after) 0 sourceIndex count =
      some ((source.drop sourceIndex).take count ++ after) := by
  have length : old.length = ((source.drop sourceIndex).take count).length := by
    rw [List.length_take, List.length_drop]
    omega
  rw [copy_eq_storeAll source _ inside]
  exact storeAll_append [] old _ after length

theorem fill_append (old after : List α) (value : α) {count : Nat} (same : old.length = count) :
    fill (old ++ after) count value = some (List.replicate count value ++ after) := by
  simpa [fill] using storeAll_append [] old (List.replicate count value) after (by simpa using same)

/-- The front of a buffer moved back by `gap`, over itself where it is longer than that. What the
first `gap` characters are then is left open. -/
theorem move_back (moved after : List α) {gap : Nat} (fits : gap ≤ after.length) :
    ∃ front : List α, front.length = gap ∧
      move (moved ++ after) gap 0 moved.length = some (front ++ moved ++ after.drop gap) := by
  let front := (moved ++ after).take gap
  let old := ((moved ++ after).drop gap).take moved.length
  have inside : 0 + moved.length ≤ (moved ++ after).length := by
    rw [List.length_append]
    omega
  have frontLength : front.length = gap := by
    rw [List.length_take, List.length_append]
    omega
  have oldLength : old.length = moved.length := by
    rw [List.length_take, List.length_drop, List.length_append]
    omega
  have rest : ((moved ++ after).drop gap).drop moved.length = after.drop gap := by
    rw [List.drop_drop, Nat.add_comm, List.drop_append, List.drop_eq_nil_of_le (by omega),
      Nat.add_sub_cancel_left, List.nil_append]
  have whole : moved ++ after = front ++ old ++ after.drop gap := by
    rw [List.append_assoc, ← rest, List.take_append_drop, List.take_append_drop]
  have stored := storeAll_append front old moved (after.drop gap) oldLength
  rw [← whole, frontLength] at stored
  refine ⟨front, frontLength, ?_⟩
  rwa [move, if_pos inside, List.drop_zero, List.take_left]

theorem cString_append {text : List Char} (clean : nul ∉ text) (rest : List Char) :
    cString (text ++ nul :: rest) = some text := by
  have other : ∀ c ∈ text, (decide (c ≠ nul)) = true := by
    rintro c member
    simp only [ne_eq, decide_not, Bool.not_eq_true', decide_eq_false_iff_not]
    rintro rfl
    exact clean member
  rw [cString, if_pos (by simp), List.takeWhile_append_of_pos other,
    List.takeWhile_cons_of_neg (by simp), List.append_nil]

end Buffers
