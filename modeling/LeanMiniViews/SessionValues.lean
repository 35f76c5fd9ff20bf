import LeanMiniViews.AdvancedTab

/-!
What each preference is at a moment: the value that `Get` would give if the registry could be
read. It is the same whether or not somebody asks, and where the registry does what it is asked
to, only `Toggle` and `Set` change it.
-/

namespace LeanMiniViews.Preferences

theorem valueName_injective {preference other : Preference}
    (same : preference.valueName = other.valueName) : preference = other := by
  cases preference with
  | defaultOpacity =>
      cases other with
      | defaultOpacity => rfl
      | bool which => cases which <;> exact absurd same (by decide)
  | bool which =>
      cases other with
      | defaultOpacity => cases which <;> exact absurd same (by decide)
      | bool other =>
          refine congrArg Preference.bool ?_
          cases which <;> cases other <;> first | rfl | exact absurd same (by decide)

namespace Session

def bool (session : Session) (which : BoolPreference) : Bool :=
  (session.prefs.getBool session.registry which true).cachedValue

def opacity (session : Session) : UInt32 :=
  (session.prefs.getOpacity session.registry true).cachedValue

/-! Values of the registry. -/

theorem fetch_idem {α : Type} (value : RegistryValue α) (read : Option α) (readable : Bool) :
    (value.fetch (if readable then read else none)).fetch read = value.fetch read := by
  unfold RegistryValue.fetch
  cases readable with
  | true =>
      cases assigned : value.isAssigned with
      | true => simp [assigned]
      | false => cases read <;> simp [assigned]
  | false => cases assigned : value.isAssigned <;> simp [assigned]

theorem stored_written (prefs : Preferences) (registry : Registry) (preference other : Preference)
    (stored : Option UInt32) :
    prefs.stored (prefs.written registry preference ⟨true, true⟩ stored) other =
      if other = preference then stored else prefs.stored registry other := by
  have names : other.valueName = preference.valueName ↔ other = preference :=
    ⟨valueName_injective, congrArg Preference.valueName⟩
  simp only [Preferences.stored, written, if_true, Registry.value, Registry.setValue,
    Registry.createKey, Function.update_self, Option.map_some, Option.bind_some,
    Function.update_apply, names]
  split
  · rfl
  · cases registry prefs.miniViewsKey.key <;> rfl

theorem bool_eq (session : Session) (which : BoolPreference) :
    session.bool which =
      ((session.prefs.bools which).fetch
        ((session.prefs.stored session.registry (.bool which)).map fun word =>
          word != 0)).cachedValue := rfl

theorem opacity_eq (session : Session) :
    session.opacity =
      (session.prefs.defaultOpacity.fetch
        (session.prefs.stored session.registry .defaultOpacity)).cachedValue := rfl

/-! `Get`. -/

theorem bool_getBool (session : Session) (which other : BoolPreference) (readable : Bool) :
    (session.perform (.getBool which readable)).bool other = session.bool other := by
  show (((session.prefs.setBool which (session.prefs.getBool session.registry which
    readable)).bools other).fetch _).cachedValue = _
  simp only [setBool, Function.update_apply]
  split
  · rename_i same
    subst same
    have twice := fetch_idem (session.prefs.bools other)
      ((session.prefs.stored session.registry (.bool other)).map fun word => word != 0) readable
    rw [session.bool_eq, ← twice]
    cases readable <;> rfl
  · rfl

theorem bool_getOpacity (session : Session) (other : BoolPreference) (readable : Bool) :
    (session.perform (.getOpacity readable)).bool other = session.bool other := rfl

theorem opacity_getBool (session : Session) (which : BoolPreference) (readable : Bool) :
    (session.perform (.getBool which readable)).opacity = session.opacity := rfl

theorem opacity_getOpacity (session : Session) (readable : Bool) :
    (session.perform (.getOpacity readable)).opacity = session.opacity := by
  have twice := fetch_idem session.prefs.defaultOpacity
    (session.prefs.stored session.registry .defaultOpacity) readable
  rw [session.opacity_eq, ← twice]
  cases readable <;> rfl

theorem cached_getBool (session : Session) (which : BoolPreference) :
    ((session.perform (.getBool which true)).prefs.bools which).cachedValue =
      session.bool which := by
  simp [perform, step, setBool, bool]

theorem cached_getBool_other (session : Session) {which other : BoolPreference}
    (different : other ≠ which) (readable : Bool) :
    ((session.perform (.getBool which readable)).prefs.bools other).cachedValue =
      (session.prefs.bools other).cachedValue := by
  simp [perform, step, setBool, different]

theorem cached_getOpacity (session : Session) :
    (session.perform (.getOpacity true)).prefs.defaultOpacity.cachedValue = session.opacity := rfl

/-! `Toggle` and `Set`, where they are granted. -/

theorem stored_toggleBool (session : Session) (which : BoolPreference) (other : Preference) :
    let next := session.perform (.toggleBool which ⟨true, true⟩)
    next.prefs.stored next.registry other =
      if other = .bool which then some (if !(session.prefs.bools which).cachedValue then 1 else 0)
      else session.prefs.stored session.registry other :=
  stored_written session.prefs session.registry (.bool which) other _

theorem stored_setOpacity (session : Session) (newValue : UInt32) (other : Preference) :
    let next := session.perform (.setOpacity newValue ⟨true, true⟩)
    next.prefs.stored next.registry other =
      if other = .defaultOpacity then some newValue
      else session.prefs.stored session.registry other :=
  stored_written session.prefs session.registry .defaultOpacity other _

theorem bool_toggleBool (session : Session) (which other : BoolPreference) :
    (session.perform (.toggleBool which ⟨true, true⟩)).bool other =
      if other = which then !(session.prefs.bools which).cachedValue else session.bool other := by
  have held : (session.perform (.toggleBool which ⟨true, true⟩)).prefs =
      session.prefs.setBool which ⟨true, !(session.prefs.bools which).cachedValue⟩ := rfl
  by_cases same : other = which
  · subst same
    rw [if_pos rfl, bool_eq, held]
    simp [setBool, RegistryValue.fetch]
  · have stored := session.stored_toggleBool which (.bool other)
    rw [if_neg (by simpa using same)] at stored
    rw [if_neg same, bool_eq, stored, held]
    simp [setBool, same, bool_eq]

theorem opacity_toggleBool (session : Session) (which : BoolPreference) :
    (session.perform (.toggleBool which ⟨true, true⟩)).opacity = session.opacity := by
  rw [opacity_eq, session.stored_toggleBool which .defaultOpacity]
  rfl

theorem bool_setOpacity (session : Session) (newValue : UInt32) (other : BoolPreference) :
    (session.perform (.setOpacity newValue ⟨true, true⟩)).bool other = session.bool other := by
  rw [bool_eq, session.stored_setOpacity newValue (.bool other)]
  rfl

theorem opacity_setOpacity (session : Session) (newValue : UInt32) :
    (session.perform (.setOpacity newValue ⟨true, true⟩)).opacity = newValue := rfl

/-! `ClearSavedPreferences`, which forgets what is stored and not what is held. -/

theorem perform_cleared (session : Session) {deletes : Preference → Bool}
    (granted : ∀ preference, deletes preference = true) :
    let next := session.perform (.clearSavedPreferences deletes true)
    Cleared session.prefs next.prefs next.registry :=
  clearSavedPreferences_cleared session.prefs session.registry granted

theorem key_clear (session : Session) {deletes : Preference → Bool}
    (granted : ∀ preference, deletes preference = true) :
    (session.perform (.clearSavedPreferences deletes true)).prefs.miniViewsKey.key =
      session.prefs.miniViewsKey.key := by
  have all : (clearValues deletes clearOrder session.prefs session.registry).2.2 = true :=
    (clearValues_iff deletes clearOrder session.prefs session.registry).mpr fun preference _ =>
      granted preference
  simp only [perform, step, Option.getD_some, clearSavedPreferences, all, if_true]
  have kept := clearValues_miniViewsKey deletes clearOrder session.prefs session.registry
  show (clearValues deletes clearOrder session.prefs session.registry).1.miniViewsKey.key = _
  rw [kept]

theorem cached_clear (session : Session) {deletes : Preference → Bool}
    (granted : ∀ preference, deletes preference = true) :
    let next := session.perform (.clearSavedPreferences deletes true)
    (∀ which, (next.prefs.bools which).cachedValue = (session.prefs.bools which).cachedValue) ∧
      next.prefs.defaultOpacity.cachedValue = session.prefs.defaultOpacity.cachedValue := by
  have all : (clearValues deletes clearOrder session.prefs session.registry).2.2 = true :=
    (clearValues_iff deletes clearOrder session.prefs session.registry).mpr fun preference _ =>
      granted preference
  have values := clearValues_clearedFrom deletes clearOrder session.prefs session.registry
    fun preference _ => granted preference
  simp only [perform, step, Option.getD_some, clearSavedPreferences, all, if_true]
  exact ⟨values.boolCached, values.opacityCached⟩

theorem bool_clear (session : Session) {deletes : Preference → Bool}
    (granted : ∀ preference, deletes preference = true) (which : BoolPreference) :
    (session.perform (.clearSavedPreferences deletes true)).bool which =
      (session.prefs.bools which).cachedValue := by
  rw [bool, getBool_of_deleted ((session.perform_cleared granted).deleted _)]
  exact (session.cached_clear granted).1 which

end Session

end LeanMiniViews.Preferences
