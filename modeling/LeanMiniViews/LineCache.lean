import LeanMiniViews.DeviceContextCore

/-!
The cached text extents against the measured ones. The key of an entry only narrows the search
for it; an entry answers for its own text.
-/

namespace LeanMiniViews

namespace DeviceContext

variable {CodeUnit : Type} {measure : List CodeUnit → UInt32} {strHash : List CodeUnit → Nat}
  {lineCache : List (Nat × LineSize CodeUnit)}

structure Measured (measure : List CodeUnit → UInt32) (lineSize : LineSize CodeUnit) : Prop where
  succeeds : measure lineSize.str ≠ 0
  width : lineSize.width = loWord (measure lineSize.str)
  height : lineSize.height = hiWord (measure lineSize.str)

def Accurate (measure : List CodeUnit → UInt32) (strHash : List CodeUnit → Nat)
    (lineCache : List (Nat × LineSize CodeUnit)) : Prop :=
  ∀ entry ∈ lineCache, entry.1 = strHash entry.2.str ∧ Measured measure entry.2

theorem getTabTextExtent_of_measures {text : List CodeUnit} (nonempty : text.length > 0)
    (measures : measure text ≠ 0) (width height : Int) :
    getTabTextExtent measure text width height =
      ⟨true, loWord (measure text), hiWord (measure text)⟩ := by
  rw [getTabTextExtent, if_pos nonempty, if_pos measures]

theorem Accurate.add (accurate : Accurate measure strHash lineCache) {text : List CodeUnit}
    (measures : measure text ≠ 0) :
    Accurate measure strHash
      (lineCache ++ [(strHash text, ⟨text, loWord (measure text), hiWord (measure text)⟩)]) := by
  intro entry member
  rcases List.mem_append.mp member with earlier | added
  · exact accurate entry earlier
  · obtain rfl := List.mem_singleton.mp added
    exact ⟨rfl, measures, rfl, rfl⟩

variable [DecidableEq CodeUnit]

theorem found_entry {text : List CodeUnit} {hash key : Nat} {lineSize : LineSize CodeUnit}
    (found : (equalRange hash lineCache).find? (fun entry => entry.2.str = text) =
      some (key, lineSize)) : (key, lineSize) ∈ lineCache ∧ lineSize.str = text := by
  have inRange := List.mem_of_find?_eq_some found
  have same := List.find?_some found
  exact ⟨(List.mem_filter.mp inRange).1, of_decide_eq_true same⟩

theorem getTabTextExtentCached_eq (accurate : Accurate measure strHash lineCache)
    (call : ExtentCall CodeUnit) :
    (getTabTextExtentCached measure strHash call.text call.width call.height lineCache).1 =
        getTabTextExtent measure call.text call.width call.height ∧
      Accurate measure strHash
        (getTabTextExtentCached measure strHash call.text call.width call.height lineCache).2 := by
  rw [getTabTextExtentCached]
  by_cases nonempty : call.text.length > 0
  · rw [if_pos nonempty]
    dsimp only
    split
    · rename_i key lineSize found
      obtain ⟨member, same⟩ := found_entry found
      have measured := (accurate _ member).2
      have measures := measured.succeeds
      rw [same] at measures
      refine ⟨?_, accurate⟩
      rw [getTabTextExtent_of_measures nonempty measures, measured.width, measured.height, same]
    · by_cases measures : measure call.text ≠ 0
      · rw [if_pos measures]
        exact ⟨(getTabTextExtent_of_measures nonempty measures _ _).symm, accurate.add measures⟩
      · rw [if_neg measures]
        refine ⟨?_, accurate⟩
        rw [getTabTextExtent, if_pos nonempty, if_neg measures]
  · rw [if_neg nonempty]
    refine ⟨?_, accurate⟩
    rw [getTabTextExtent, if_neg nonempty]

theorem extentCalls_accurate (accurate : Accurate measure strHash lineCache)
    (calls : List (ExtentCall CodeUnit)) :
    (extentCalls measure strHash calls lineCache).1 =
        calls.map (fun call => getTabTextExtent measure call.text call.width call.height) ∧
      Accurate measure strHash (extentCalls measure strHash calls lineCache).2 := by
  induction calls generalizing lineCache with
  | nil => exact ⟨rfl, accurate⟩
  | cons call rest ih =>
      obtain ⟨same, filled⟩ := getTabTextExtentCached_eq accurate call
      obtain ⟨later, last⟩ := ih filled
      refine ⟨?_, last⟩
      rw [extentCalls, List.map_cons, ← same, ← later]

/-- From an empty cache on, each call answers and writes what the one without a cache does, and
whatever has been cached was measured. -/
theorem extentCalls_measured (measure : List CodeUnit → UInt32) (strHash : List CodeUnit → Nat)
    (calls : List (ExtentCall CodeUnit)) :
    (extentCalls measure strHash calls []).1 =
        calls.map (fun call => getTabTextExtent measure call.text call.width call.height) ∧
      ∀ entry ∈ (extentCalls measure strHash calls []).2, Measured measure entry.2 := by
  have nothing : Accurate measure strHash [] := fun _ member => by cases member
  obtain ⟨same, accurate⟩ := extentCalls_accurate nothing calls
  exact ⟨same, fun entry member => (accurate entry member).2⟩

end DeviceContext

end LeanMiniViews
