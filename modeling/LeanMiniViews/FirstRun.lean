import LeanMiniViews.PreferencesCore
import LeanMiniViews.Runs

/-!
Clearing the saved preferences against starting anew. The registry forgets the values, the
objects keep them; and the key that is created to remember that this is not the first run is
taken for the sign that it is.
-/

namespace LeanMiniViews

namespace RegistryValue

variable {α : Type}

@[simp] theorem clear_cachedValue (value : RegistryValue α) (deleted : Bool) :
    (value.clear deleted).cachedValue = value.cachedValue := by
  cases deleted <;> rfl

@[simp] theorem clear_isAssigned (value : RegistryValue α) :
    (value.clear true).isAssigned = false := rfl

end RegistryValue

namespace Registry

theorem setValue_none (registry : Registry) (key : HKEY) (valueName other : String) :
    (registry.setValue key valueName none).value key other =
      if other = valueName then none else registry.value key other := by
  simp only [setValue, value, Function.update_self]
  cases registry key with
  | none => simp
  | some values => simp [Function.update_apply]

theorem deleteKey_value {registry : Registry} {key deletedKey : HKEY} {valueName : String}
    (absent : registry.value key valueName = none) :
    (registry.deleteKey deletedKey).value key valueName = none := by
  simp only [deleteKey, value, Function.update_apply]
  split
  · rfl
  · exact absent

end Registry

namespace Preferences

/-! The chain of deletions. -/

@[simp] theorem clearValue_miniViewsKey (prefs : Preferences) (registry : Registry)
    (preference : Preference) :
    (prefs.clearValue registry preference).1.miniViewsKey = prefs.miniViewsKey := by
  cases preference <;> rfl

@[simp] theorem clearValue_boolCached (prefs : Preferences) (registry : Registry)
    (preference : Preference) (which : BoolPreference) :
    ((prefs.clearValue registry preference).1.bools which).cachedValue =
      (prefs.bools which).cachedValue := by
  cases preference with
  | bool cleared =>
      simp only [clearValue, setBool, Function.update_apply]
      split
      · rename_i same
        simp [same]
      · rfl
  | defaultOpacity => rfl

@[simp] theorem clearValue_opacityCached (prefs : Preferences) (registry : Registry)
    (preference : Preference) :
    (prefs.clearValue registry preference).1.defaultOpacity.cachedValue =
      prefs.defaultOpacity.cachedValue := by
  cases preference <;> simp [clearValue, setBool]

theorem clearValue_boolAssigned (prefs : Preferences) (registry : Registry)
    (preference : Preference) (which : BoolPreference) :
    ((prefs.clearValue registry preference).1.bools which).isAssigned =
      if preference = .bool which then false else (prefs.bools which).isAssigned := by
  cases preference with
  | bool cleared =>
      simp only [clearValue, setBool, Function.update_apply, Preference.bool.injEq]
      by_cases same : cleared = which
      · simp [same]
      · simp [same, Ne.symm same]
  | defaultOpacity => simp [clearValue]

theorem clearValue_opacityAssigned (prefs : Preferences) (registry : Registry)
    (preference : Preference) :
    (prefs.clearValue registry preference).1.defaultOpacity.isAssigned =
      if preference = .defaultOpacity then false else prefs.defaultOpacity.isAssigned := by
  cases preference <;> simp [clearValue, setBool]

/-- What is left of the preferences after the values in `order` were deleted. The alternatives
in the premises let the deletions be composed. -/
structure ClearedFrom (prefs : Preferences) (registry : Registry) (order : List Preference)
    (next : Preferences) (nextRegistry : Registry) : Prop where
  miniViewsKey : next.miniViewsKey = prefs.miniViewsKey
  boolCached : ∀ which, (next.bools which).cachedValue = (prefs.bools which).cachedValue
  opacityCached : next.defaultOpacity.cachedValue = prefs.defaultOpacity.cachedValue
  boolUnassigned : ∀ which, .bool which ∈ order ∨ (prefs.bools which).isAssigned = false →
    (next.bools which).isAssigned = false
  opacityUnassigned : .defaultOpacity ∈ order ∨ prefs.defaultOpacity.isAssigned = false →
    next.defaultOpacity.isAssigned = false
  deleted : ∀ preference : Preference,
    preference ∈ order ∨ prefs.stored registry preference = none →
      next.stored nextRegistry preference = none

theorem clearValue_stored (prefs : Preferences) (registry : Registry)
    (preference other : Preference) :
    (prefs.clearValue registry preference).1.stored (prefs.clearValue registry preference).2
        other =
      if other.valueName = preference.valueName then none else prefs.stored registry other := by
  rw [stored, clearValue_miniViewsKey]
  exact Registry.setValue_none registry _ _ _

theorem clearValues_iff (deletes : Preference → Bool) (order : List Preference)
    (prefs : Preferences) (registry : Registry) :
    (clearValues deletes order prefs registry).2.2 = true ↔
      ∀ preference ∈ order, deletes preference = true := by
  induction order generalizing prefs registry with
  | nil => simp [clearValues]
  | cons preference rest ih =>
      rw [clearValues, List.forall_mem_cons]
      by_cases granted : deletes preference = true
      · rw [if_pos granted, ih]
        simp [granted]
      · simp [granted]

theorem clearValues_clearedFrom (deletes : Preference → Bool) (order : List Preference)
    (prefs : Preferences) (registry : Registry)
    (granted : ∀ preference ∈ order, deletes preference = true) :
    ClearedFrom prefs registry order (clearValues deletes order prefs registry).1
      (clearValues deletes order prefs registry).2.1 := by
  induction order generalizing prefs registry with
  | nil => exact ⟨rfl, fun _ => rfl, rfl, by simp [clearValues], by simp [clearValues],
      by simp [clearValues]⟩
  | cons preference rest ih =>
      rw [List.forall_mem_cons] at granted
      have later := ih (prefs.clearValue registry preference).1
        (prefs.clearValue registry preference).2 granted.2
      rw [clearValues, if_pos granted.1]
      refine ⟨?_, ?_, ?_, ?_, ?_, ?_⟩
      · rw [later.miniViewsKey, clearValue_miniViewsKey]
      · intro which
        rw [later.boolCached, clearValue_boolCached]
      · rw [later.opacityCached, clearValue_opacityCached]
      · intro which listed
        refine later.boolUnassigned which ?_
        rw [clearValue_boolAssigned]
        by_cases here : preference = .bool which
        · simp [here]
        · simpa [here, Ne.symm here] using listed
      · intro listed
        refine later.opacityUnassigned ?_
        rw [clearValue_opacityAssigned]
        by_cases here : preference = .defaultOpacity
        · simp [here]
        · simpa [here, Ne.symm here] using listed
      · intro other listed
        refine later.deleted other ?_
        rw [clearValue_stored]
        by_cases here : other = preference
        · simp [here]
        · rcases listed with listed | absent
          · exact Or.inl ((List.mem_cons.mp listed).resolve_left here)
          · exact Or.inr (by simp [absent])

theorem clearOrder_complete (preference : Preference) : preference ∈ clearOrder := by
  cases preference with
  | bool which => cases which <;> decide
  | defaultOpacity => decide

theorem clearSavedPreferences_iff (prefs : Preferences) (registry : Registry)
    (deletes : Preference → Bool) (deletesKey : Bool) :
    (prefs.clearSavedPreferences registry deletes deletesKey).2.2 = true ↔
      (∀ preference, deletes preference = true) ∧ deletesKey = true := by
  have everything : (∀ preference ∈ clearOrder, deletes preference = true) ↔
      ∀ preference, deletes preference = true :=
    ⟨fun all preference => all preference (clearOrder_complete preference),
      fun all preference _ => all preference⟩
  rw [← everything, ← clearValues_iff deletes clearOrder prefs registry]
  simp only [clearSavedPreferences]
  split
  · rename_i all
    simp [all]
  · rename_i refused
    simp [refused]

/-! What a successful clear leaves. -/

def DefaultsReturned (prefs : Preferences) (registry : Registry) : Prop :=
  (∀ which readable, (prefs.getBool registry which readable).cachedValue = which.defaultValue) ∧
    ∀ readable, (prefs.getOpacity registry readable).cachedValue = opacityDefault

def CachesDefaults (prefs : Preferences) : Prop :=
  (∀ which, (prefs.bools which).cachedValue = which.defaultValue) ∧
    prefs.defaultOpacity.cachedValue = opacityDefault

theorem getBool_of_deleted {prefs : Preferences} {registry : Registry} {which : BoolPreference}
    (deleted : prefs.stored registry (.bool which) = none) (readable : Bool) :
    prefs.getBool registry which readable = prefs.bools which := by
  simp [getBool, deleted, RegistryBool.get, RegistryValue.fetch, RegistryValue.getBool,
    RegistryValue.getDword]

theorem getOpacity_of_deleted {prefs : Preferences} {registry : Registry}
    (deleted : prefs.stored registry .defaultOpacity = none) (readable : Bool) :
    prefs.getOpacity registry readable = prefs.defaultOpacity := by
  simp [getOpacity, deleted, Registryu32.get, RegistryValue.fetch, RegistryValue.getDword]

theorem defaultsReturned_iff {prefs : Preferences} {registry : Registry}
    (deleted : ∀ preference, prefs.stored registry preference = none) :
    prefs.DefaultsReturned registry ↔ prefs.CachesDefaults := by
  simp only [DefaultsReturned, CachesDefaults, getBool_of_deleted (deleted _),
    getOpacity_of_deleted (deleted _), forall_const]

/-- The state after a clear that was granted everything. -/
structure Cleared (prefs next : Preferences) (nextRegistry : Registry) : Prop where
  cachesDefaults : next.CachesDefaults ↔ prefs.CachesDefaults
  deleted : ∀ preference, next.stored nextRegistry preference = none
  unconfirmed : next.miniViewsKey.confirmed = false
  keyDeleted : nextRegistry hkeyCurrentUser = none

theorem clearSavedPreferences_cleared (prefs : Preferences) (registry : Registry)
    {deletes : Preference → Bool} (granted : ∀ preference, deletes preference = true) :
    Cleared prefs (prefs.clearSavedPreferences registry deletes true).1
      (prefs.clearSavedPreferences registry deletes true).2.1 := by
  have all : (clearValues deletes clearOrder prefs registry).2.2 = true :=
    (clearValues_iff deletes clearOrder prefs registry).mpr fun preference _ =>
      granted preference
  have values := clearValues_clearedFrom deletes clearOrder prefs registry
    fun preference _ => granted preference
  simp only [clearSavedPreferences, all, if_true]
  refine ⟨?_, ?_, rfl, ?_⟩
  · simp only [CachesDefaults, values.boolCached, values.opacityCached]
  · intro preference
    have absent := values.deleted preference (Or.inl (clearOrder_complete preference))
    exact Registry.deleteKey_value absent
  · simp [RegistryKey.clear, Registry.deleteKey]

theorem Cleared.isFirstRun {prefs next : Preferences} {nextRegistry : Registry}
    (cleared : Cleared prefs next nextRegistry) (opens : Bool) :
    next.isFirstRun nextRegistry opens = false := by
  simp [Preferences.isFirstRun, RegistryKey.keyExists, cleared.unconfirmed, cleared.keyDeleted]

/-! Runs. -/

def Call.Clears : Call → Prop
  | .clearSavedPreferences deletes deletesKey =>
      (∀ preference, deletes preference = true) ∧ deletesKey = true
  | _ => False

/-- The call succeeds in marking or clearing the first run, on an object that has not marked it
before. -/
def Call.Granted : Call → Prop
  | .setNotFirstRun creates => creates = true
  | call => call.Clears

/-- What `IsFirstRun` answers, whether or not a key that exists can be opened. -/
def Session.FirstRunIs (session : Session) (answer : Bool) : Prop :=
  ∀ opens, session.prefs.isFirstRun session.registry opens = answer

def ClearSucceeds (session : Session) : Call → Prop
  | .clearSavedPreferences deletes deletesKey =>
      (session.prefs.clearSavedPreferences session.registry deletes deletesKey).2.2 = true
  | _ => False

/-- After a clear that returned true, every `Get` returns its default. -/
def ResetsValues (session : Session) (call : Call) (next : Session) : Prop :=
  ClearSucceeds session call → next.prefs.DefaultsReturned next.registry

/-- And it is a first run, while after `SetNotFirstRun` it is none until the next clear. -/
def RestoresFirstRun (session : Session) (call : Call) (next : Session) : Prop :=
  ResetsValues session call next ∧ (ClearSucceeds session call → next.FirstRunIs true) ∧
    (next.notFirstRun = true → next.FirstRunIs false)

/-- A clear that is granted everything finds the objects holding their defaults. -/
def ClearsDefaults (session : Session) (call : Call) : Prop :=
  call.Clears → session.prefs.CachesDefaults

theorem clearSucceeds_iff (session : Session) (call : Call) :
    ClearSucceeds session call ↔ call.Clears := by
  cases call with
  | clearSavedPreferences deletes deletesKey =>
      exact clearSavedPreferences_iff session.prefs session.registry deletes deletesKey
  | _ => exact Iff.rfl

theorem step_cleared {session next : Session} {call : Call} (clears : call.Clears)
    (stepped : step session call = some next) :
    Cleared session.prefs next.prefs next.registry := by
  cases call with
  | clearSavedPreferences deletes deletesKey =>
      obtain ⟨granted, rfl⟩ := clears
      cases stepped
      exact clearSavedPreferences_cleared session.prefs session.registry granted
  | _ => exact clears.elim

theorem step_total (session : Session) (call : Call) : step session call ≠ none := by
  cases call <;> simp [step]

theorem resetsValues_iff (session : Session) (call : Call) :
    Runs.After step ResetsValues session call ↔ ClearsDefaults session call := by
  apply Runs.after_iff
  · exact fun stuck => absurd stuck (step_total session call)
  · intro next stepped
    rw [ResetsValues, clearSucceeds_iff, ClearsDefaults]
    refine forall_congr' fun clears => ?_
    have cleared := step_cleared clears stepped
    rw [defaultsReturned_iff cleared.deleted, cleared.cachesDefaults]

/-- No `SetNotFirstRun` has succeeded yet. -/
structure Unmarked (session : Session) : Prop where
  unconfirmed : session.prefs.miniViewsKey.confirmed = false
  firstRun : session.notFirstRun = false

theorem clearValues_miniViewsKey (deletes : Preference → Bool) (order : List Preference)
    (prefs : Preferences) (registry : Registry) :
    (clearValues deletes order prefs registry).1.miniViewsKey = prefs.miniViewsKey := by
  induction order generalizing prefs registry with
  | nil => rfl
  | cons preference rest ih =>
      rw [clearValues]
      split
      · rw [ih, clearValue_miniViewsKey]
      · rfl

theorem clearSavedPreferences_unconfirmed {prefs : Preferences} (registry : Registry)
    (deletes : Preference → Bool) (deletesKey : Bool)
    (unconfirmed : prefs.miniViewsKey.confirmed = false) :
    (prefs.clearSavedPreferences registry deletes deletesKey).1.miniViewsKey.confirmed =
      false := by
  have kept := clearValues_miniViewsKey deletes clearOrder prefs registry
  simp only [clearSavedPreferences]
  split
  · cases deletesKey with
    | true => rfl
    | false => simpa [RegistryKey.clear, kept] using unconfirmed
  · rw [kept, unconfirmed]

theorem step_unmarked {session next : Session} {call : Call} (unmarked : Unmarked session)
    (refused : ¬ call.Granted) (stepped : step session call = some next) : Unmarked next := by
  cases call with
  | setNotFirstRun creates =>
      cases stepped
      have creates_nothing : creates = false := by simpa [Call.Granted] using refused
      subst creates_nothing
      exact ⟨unmarked.unconfirmed, by
        simp [setNotFirstRun, RegistryKey.createKey, unmarked.unconfirmed, unmarked.firstRun]⟩
  | clearSavedPreferences deletes deletesKey =>
      cases stepped
      exact ⟨clearSavedPreferences_unconfirmed _ _ _ unmarked.unconfirmed, by
        simp [unmarked.firstRun]⟩
  | _ =>
      cases stepped
      exact ⟨unmarked.unconfirmed, unmarked.firstRun⟩

theorem restoresFirstRun_iff (session : Session) (call : Call) (unmarked : Unmarked session) :
    Runs.After step RestoresFirstRun session call ↔ ¬ call.Granted := by
  apply Runs.after_iff
  · exact fun stuck => absurd stuck (step_total session call)
  · intro next stepped
    constructor
    · rintro ⟨-, firstAgain, notFirst⟩ granted
      cases call with
      | setNotFirstRun creates =>
          obtain rfl : creates = true := granted
          cases stepped
          -- the key that was just created is what `IsFirstRun` looks for
          have answer := notFirst (by simp [setNotFirstRun, RegistryKey.createKey]) true
          simp [Preferences.isFirstRun, RegistryKey.keyExists, setNotFirstRun,
            RegistryKey.createKey] at answer
      | clearSavedPreferences deletes deletesKey =>
          have clears : (Call.clearSavedPreferences deletes deletesKey).Clears := granted
          have answer := firstAgain ((clearSucceeds_iff session _).mpr clears) true
          rw [(step_cleared clears stepped).isFirstRun] at answer
          cases answer
      | _ => exact granted
    · intro refused
      have kept := step_unmarked unmarked refused stepped
      have clearsNothing : ¬ ClearSucceeds session call := by
        rw [clearSucceeds_iff]
        intro clears
        cases call with
        | clearSavedPreferences deletes deletesKey => exact refused clears
        | _ => exact clears
      refine ⟨fun clears => absurd clears clearsNothing,
        fun clears => absurd clears clearsNothing, ?_⟩
      intro marked
      rw [kept.firstRun] at marked
      cases marked

/-- Along the runs of a new object: the whole of it holds exactly if no `SetNotFirstRun` and no
`ClearSavedPreferences` is granted what it asks for, and the values alone are reset exactly if
every clear that is granted finds them at their defaults. -/
theorem clearing_restores_first_run_iff (miniViewsKey : HKEY) (registry : Registry)
    (calls : List Call) :
    (Runs.Along step (Runs.After step RestoresFirstRun) (start miniViewsKey registry) calls ↔
      Runs.Along step (fun _ call => ¬ call.Granted) (start miniViewsKey registry) calls) ∧
    (Runs.Along step (Runs.After step ResetsValues) (start miniViewsKey registry) calls ↔
      Runs.Along step ClearsDefaults (start miniViewsKey registry) calls) := by
  constructor
  · have initial : Unmarked (start miniViewsKey registry) := ⟨rfl, rfl⟩
    refine Runs.along_iff_of_exact restoresFirstRun_iff ?_ initial
    exact fun session call unmarked refused next stepped =>
      step_unmarked unmarked refused stepped
  · exact Runs.along_congr resetsValues_iff _ _

/-- A preference that was set keeps its value, and the cleared object is not on its first run. -/
theorem clear_keeps_set_value :
    ¬ ∀ (miniViewsKey : HKEY) (registry : Registry) (calls : List Call),
      Runs.Along step (Runs.After step RestoresFirstRun) (start miniViewsKey registry) calls := by
  intro claim
  have run := claim hkeyCurrentUser (fun _ => none)
    [.setBool .showDialogOnStart false ⟨true, true⟩, .clearSavedPreferences (fun _ => true) true]
  have cleared := (run.2 _ rfl).1 _ rfl
  have defaults := cleared.1 ((clearSucceeds_iff _ _).mpr ⟨fun _ => rfl, rfl⟩)
  have returned := defaults.1 .showDialogOnStart true
  exact absurd returned (by decide)

end Preferences

end LeanMiniViews
