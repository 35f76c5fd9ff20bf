import LeanMiniViews.Memory

/-!
The scans that tell a frozen or blank capture from a real one. Every index and every range is
checked against the vector; a scan that left it would have no result.
-/

namespace LeanMiniViews

/-- The check of the last of an odd number of words. -/
def oddTailDiffers (vec : List UInt32) (value : UInt32) (remaining : Nat) : Option Bool :=
  if remaining % 2 > 0 then vec[remaining - 1]?.map fun word => word != value
  else some false

/-- The loop of both scans; they differ in where `value` comes from. -/
def halvingLoop (vec : List UInt32) (value : UInt32) (remaining : Nat) : Option Bool :=
  if 1 < remaining then
    (oddTailDiffers vec value remaining).bind fun differs =>
      if differs then some false
      else
        (Memory.memcmp (Memory.bytes vec) 0 (4 * (remaining / 2)) (4 * (remaining / 2))).bind
          fun order =>
            if order ≠ 0 then some false else halvingLoop vec value (remaining / 2)
  else some true
termination_by remaining

def isAllZero (vec : List UInt32) : Option Bool :=
  match vec with
  | [] => some false
  | first :: _ => if first ≠ 0 then some false else halvingLoop vec 0 vec.length

def isAllSame (vec : List UInt32) : Option Bool :=
  match vec with
  | [] => some false
  | value :: _ => halvingLoop vec value vec.length

/-- `WinGdiImage::isValid`, given what `GetDIBits` retrieved. -/
def isValid (width height : Int) (linesRetrieved : Int) (pixels : List UInt32) : Option Bool :=
  if width > 0 ∧ height > 0 then
    (isAllSame pixels).map fun same => linesRetrieved == height && !same
  else some false

/-! The first `remaining` words are uniform. -/

def Uniform (vec : List UInt32) (value : UInt32) (remaining : Nat) : Prop :=
  ∀ index < remaining, vec[index]? = some value

theorem uniform_one {vec : List UInt32} {value : UInt32} :
    Uniform vec value 1 ↔ vec[0]? = some value := by
  constructor
  · exact fun uniform => uniform 0 (by omega)
  · intro first index below
    rwa [show index = 0 by omega]

/-- What one round of the loop looks at decides about all of the words it halves. -/
theorem uniform_halves {vec : List UInt32} {value : UInt32} {remaining : Nat}
    (more : 1 < remaining) :
    Uniform vec value remaining ↔
      (remaining % 2 > 0 → vec[remaining - 1]? = some value) ∧
        (∀ index < remaining / 2, vec[0 + index]? = vec[remaining / 2 + index]?) ∧
        Uniform vec value (remaining / 2) := by
  constructor
  · intro uniform
    refine ⟨fun _ => uniform _ (by omega), ?_, fun index below => uniform index (by omega)⟩
    intro index below
    rw [uniform (0 + index) (by omega), uniform (remaining / 2 + index) (by omega)]
  · rintro ⟨tail, halves, uniform⟩ index below
    by_cases lower : index < remaining / 2
    · exact uniform index lower
    · by_cases upper : index < remaining / 2 + remaining / 2
      · have same := halves (index - remaining / 2) (by omega)
        rw [Nat.zero_add, uniform _ (by omega), Nat.add_sub_cancel' (by omega)] at same
        exact same.symm
      · -- neither half reaches the tail of an odd length
        rw [show index = remaining - 1 by omega]
        exact tail (by omega)

theorem oddTailDiffers_spec (vec : List UInt32) (value : UInt32) {remaining : Nat}
    (positive : 0 < remaining) (within : remaining ≤ vec.length) :
    ∃ differs, oddTailDiffers vec value remaining = some differs ∧
      (differs = false ↔ (remaining % 2 > 0 → vec[remaining - 1]? = some value)) := by
  unfold oddTailDiffers
  split
  · rename_i odd
    have inside : remaining - 1 < vec.length := by omega
    rw [List.getElem?_eq_getElem inside]
    exact ⟨_, rfl, by simp [odd]⟩
  · rename_i even
    exact ⟨false, rfl, by simp [even]⟩

theorem halvingLoop_spec (vec : List UInt32) (value : UInt32) (remaining : Nat)
    (first : vec[0]? = some value) (positive : 0 < remaining)
    (within : remaining ≤ vec.length) :
    ∃ answer, halvingLoop vec value remaining = some answer ∧
      (answer = true ↔ Uniform vec value remaining) := by
  induction remaining using Nat.strongRecOn with
  | _ remaining ih =>
      rw [halvingLoop]
      split
      · rename_i more
        obtain ⟨differs, tailChecked, tailSame⟩ :=
          oddTailDiffers_spec vec value positive within
        obtain ⟨order, compared, halvesSame⟩ :=
          Memory.memcmp_bytes vec 0 (remaining / 2) (remaining / 2) (by omega) (by omega)
        obtain ⟨answer, looped, answered⟩ :=
          ih (remaining / 2) (by omega) (by omega) (by omega)
        rw [tailChecked, uniform_halves more, ← tailSame, ← halvesSame, ← answered,
          Option.bind_some]
        cases differs with
        | true => exact ⟨false, rfl, by simp⟩
        | false =>
            rw [Nat.mul_zero] at compared
            rw [if_neg (by simp), compared, Option.bind_some]
            by_cases same : order = 0
            · exact ⟨answer, by simp [same, looped], by simp [same]⟩
            · exact ⟨false, by simp [same], by simp [same]⟩
      · refine ⟨true, rfl, ?_⟩
        rw [show remaining = 1 by omega, uniform_one]
        simp [first]

theorem uniform_length_iff (vec : List UInt32) (value : UInt32) :
    Uniform vec value vec.length ↔ ∀ word ∈ vec, word = value := by
  constructor
  · intro uniform word member
    obtain ⟨index, bound, rfl⟩ := List.mem_iff_getElem.mp member
    have entry := uniform index bound
    rw [List.getElem?_eq_getElem bound] at entry
    exact Option.some.inj entry
  · intro all index bound
    rw [List.getElem?_eq_getElem bound, all _ (List.getElem_mem bound)]

theorem halvingLoop_length (first : UInt32) (rest : List UInt32) :
    ∃ answer, halvingLoop (first :: rest) first (first :: rest).length = some answer ∧
      (answer = true ↔ ∀ word ∈ first :: rest, word = first) := by
  rw [← uniform_length_iff]
  exact halvingLoop_spec _ _ _ rfl (by simp) (Nat.le_refl _)

theorem isAllSame_spec (vec : List UInt32) :
    ∃ same, isAllSame vec = some same ∧
      (same = true ↔ ∃ value ∈ vec[0]?, ∀ word ∈ vec, word = value) := by
  cases vec with
  | nil => exact ⟨false, rfl, by simp⟩
  | cons first rest =>
      obtain ⟨answer, looped, answered⟩ := halvingLoop_length first rest
      exact ⟨answer, looped, by simpa using answered⟩

theorem isAllZero_spec (vec : List UInt32) :
    ∃ zero, isAllZero vec = some zero ∧
      (zero = true ↔ vec ≠ [] ∧ ∀ word ∈ vec, word = 0) := by
  cases vec with
  | nil => exact ⟨false, rfl, by simp⟩
  | cons first rest =>
      by_cases blank : first = 0
      · subst blank
        obtain ⟨answer, looped, answered⟩ := halvingLoop_length 0 rest
        exact ⟨answer, by simpa [isAllZero] using looped, by simpa using answered⟩
      · exact ⟨false, by simp [isAllZero, blank], by simp [blank]⟩

theorem uniformity_scans_exact (vec : List UInt32) :
    (∃ same, isAllSame vec = some same ∧
      (same = true ↔ ∃ value ∈ vec[0]?, ∀ word ∈ vec, word = value)) ∧
    (∃ zero, isAllZero vec = some zero ∧
      (zero = true ↔ vec ≠ [] ∧ ∀ word ∈ vec, word = 0)) :=
  ⟨isAllSame_spec vec, isAllZero_spec vec⟩

/-- A capture is taken for a picture as soon as two of its pixels differ. -/
theorem isValid_spec {width height linesRetrieved : Int} {pixels : List UInt32}
    (wide : 0 < width) (high : 0 < height) (all : linesRetrieved = height) :
    ∃ valid, isValid width height linesRetrieved pixels = some valid ∧
      (valid = false ↔ ∃ value ∈ pixels[0]?, ∀ word ∈ pixels, word = value) := by
  obtain ⟨same, scanned, answered⟩ := isAllSame_spec pixels
  refine ⟨!same, by simp [isValid, wide, high, all, scanned], ?_⟩
  rw [← answered, Bool.not_eq_false']

end LeanMiniViews
