import LeanMiniViews.AdvancedSteps

/-!
The Advanced tab over whole runs, and the preferences across the end of the program and its next
start: what was changed is found again, and what was cleared is back at its default.
-/

namespace LeanMiniViews

open Preferences

namespace Registry

theorem createKey_value (registry : Registry) (key other : HKEY) (valueName : String) :
    (registry.createKey key).value other valueName = registry.value other valueName := by
  simp only [createKey, value, Function.update_apply]
  split
  · rename_i same
    subst same
    cases registry other <;> rfl
  · rfl

end Registry

/-- Which preferences nobody changed since they were last cleared, and whether nothing at all
was changed since. -/
structure History where
  forgotten : Preference → Bool
  clearedLast : Bool

namespace History

def start : History := ⟨fun _ => false, false⟩

def change (history : History) (preference : Preference) : History :=
  ⟨Function.update history.forgotten preference false, false⟩

def record (history : History) : Preferences.Call → History
  | .toggleBool which _ => history.change (.bool which)
  | .setBool which _ _ => history.change (.bool which)
  | .setOpacity _ _ => history.change .defaultOpacity
  | .clearSavedPreferences _ _ => ⟨fun _ => true, true⟩
  | .getBool _ _ => history
  | .getOpacity _ => history
  | .setNotFirstRun _ => history

def step (history : History) (call : SettingsAnswers × Nat × AdvancedWindow.Event) : History :=
  call.2.2.changes.elim history history.record

end History

namespace Preferences

/-! The next start. -/

def Session.restarted (session : Session) : Session :=
  Preferences.start hkeyCurrentUser session.registry

variable {session next : Session}

theorem bool_restarted (key : session.prefs.miniViewsKey.key = hkeyCurrentUser)
    (which : BoolPreference) :
    session.restarted.bool which =
      ((session.prefs.stored session.registry (.bool which)).map fun word => word != 0).getD
        which.defaultValue := by
  have same : session.prefs.stored session.registry (.bool which) =
      session.registry.value hkeyCurrentUser (Preference.bool which).valueName := by
    rw [stored, key]
  rw [same]
  show ((RegistryBool.ofKey which.defaultValue).fetch
    ((session.registry.value hkeyCurrentUser _).map _)).cachedValue = _
  cases session.registry.value hkeyCurrentUser (Preference.bool which).valueName <;> rfl

theorem opacity_restarted (key : session.prefs.miniViewsKey.key = hkeyCurrentUser) :
    session.restarted.opacity =
      (session.prefs.stored session.registry .defaultOpacity).getD opacityDefault := by
  have same : session.prefs.stored session.registry .defaultOpacity =
      session.registry.value hkeyCurrentUser Preference.defaultOpacity.valueName := by
    rw [stored, key]
  rw [same]
  show ((Registryu32.ofKey opacityDefault).fetch
    (session.registry.value hkeyCurrentUser _)).cachedValue = _
  cases session.registry.value hkeyCurrentUser Preference.defaultOpacity.valueName <;> rfl

/-- What the history tells about the registry. -/
structure Remembers (history : History) (session : Session) : Prop where
  key : session.prefs.miniViewsKey.key = hkeyCurrentUser
  bool : ∀ which, session.restarted.bool which =
    if history.forgotten (.bool which) then which.defaultValue else session.bool which
  opacity : session.restarted.opacity =
    if history.forgotten .defaultOpacity then opacityDefault else session.opacity
  clearedLast : history.clearedLast = true → session.registry hkeyCurrentUser = none

theorem Remembers.sameValues {history : History} (remembers : Remembers history session)
    (same : SameValues session next) : Remembers history next := by
  have restarted : next.restarted = session.restarted := by
    rw [Session.restarted, Session.restarted, same.registry]
  refine ⟨?_, ?_, ?_, ?_⟩
  · rw [same.miniViewsKey]
    exact remembers.key
  · intro which
    rw [restarted, same.bool]
    exact remembers.bool which
  · rw [restarted, same.opacity]
    exact remembers.opacity
  · rw [same.registry]
    exact remembers.clearedLast

theorem Remembers.toggleBool {history : History} (remembers : Remembers history session)
    (which : BoolPreference) :
    Remembers (history.change (.bool which))
      (session.perform (.toggleBool which ⟨true, true⟩)) := by
  have key := remembers.key
  have after : (session.perform (.toggleBool which ⟨true, true⟩)).prefs.miniViewsKey.key =
      hkeyCurrentUser := key
  have stored := session.stored_toggleBool which
  refine ⟨after, ?_, ?_, ?_⟩
  · intro other
    rw [bool_restarted after, stored, session.bool_toggleBool]
    by_cases same : other = which
    · subst same
      cases (session.prefs.bools other).cachedValue <;> simp [History.change]
    · have different : Preference.bool other ≠ .bool which := by simpa using same
      have before := remembers.bool other
      rw [bool_restarted key] at before
      simp only [History.change, if_neg same, if_neg different, Function.update_of_ne different,
        before]
  · have before := remembers.opacity
    rw [opacity_restarted key] at before
    rw [opacity_restarted after, stored, session.opacity_toggleBool]
    simpa [History.change] using before
  · exact fun cleared => absurd cleared Bool.false_ne_true

theorem Remembers.setOpacity {history : History} (remembers : Remembers history session)
    (newValue : UInt32) :
    Remembers (history.change .defaultOpacity)
      (session.perform (.setOpacity newValue ⟨true, true⟩)) := by
  have key := remembers.key
  have after : (session.perform (.setOpacity newValue ⟨true, true⟩)).prefs.miniViewsKey.key =
      hkeyCurrentUser := key
  have stored := session.stored_setOpacity newValue
  refine ⟨after, ?_, ?_, ?_⟩
  · intro other
    have before := remembers.bool other
    rw [bool_restarted key] at before
    rw [bool_restarted after, stored, session.bool_setOpacity]
    simpa [History.change] using before
  · rw [opacity_restarted after, stored, session.opacity_setOpacity]
    simp [History.change]
  · exact fun cleared => absurd cleared Bool.false_ne_true

theorem Remembers.clear {history : History} (remembers : Remembers history session) :
    Remembers ⟨fun _ => true, true⟩
      (session.perform (.clearSavedPreferences (fun _ => true) true)) := by
  have cleared := session.perform_cleared (fun _ => rfl : ∀ _ : Preference, true = true)
  have key := (session.key_clear fun _ => rfl).trans remembers.key
  refine ⟨key, ?_, ?_, fun _ => cleared.keyDeleted⟩
  · intro which
    rw [bool_restarted key, cleared.deleted]
    rfl
  · rw [opacity_restarted key, cleared.deleted]
    rfl

end Preferences

namespace AdvancedWindow

/-! What holds between two events, from the start on. -/

structure Ready (window : AdvancedWindow) : Prop where
  allowEditNotify : window.allowEditNotify = true
  blockEditNotify : window.blockEditNotify = false
  holdsOpacity : HoldsOpacity window.session
  holdsIcon : Holds window.session .useNotificationIcon
  icon : window.hasNotificationIcon = true → window.session.bool .useNotificationIcon = true

theorem toggles_useNotificationIcon {idFrom : AdvancedId}
    (toggles : idFrom.toggles = some .useNotificationIcon) :
    idFrom = .checkUseNotificationIcon := by
  cases idFrom <;> first | rfl | cases toggles

theorem bool_settled_icon {session : Session} {event : Event}
    (holds : Holds session .useNotificationIcon)
    (other : event ≠ .click .checkUseNotificationIcon) :
    (event.settled session).bool .useNotificationIcon = session.bool .useNotificationIcon := by
  rcases changes_cases event with unchanged | ⟨idFrom, which, rfl, toggles, changes⟩ |
    ⟨text, number, rfl, -, changes⟩ | ⟨rfl, changes⟩
  · rw [Event.settled, unchanged, Option.elim_none]
  · have different : BoolPreference.useNotificationIcon ≠ which := by
      rintro rfl
      exact other (congrArg Event.click (toggles_useNotificationIcon toggles))
    rw [Event.settled, changes, Option.elim_some, session.bool_toggleBool, if_neg different]
  · rw [Event.settled, changes, Option.elim_some, session.bool_setOpacity]
  · rw [Event.settled, changes, Option.elim_some, session.bool_clear fun _ => rfl]
    exact holds

theorem step_ready {window next : AdvancedWindow} {call : SettingsAnswers × Nat × Event}
    (granted : call.1.Granted) (ready : window.Ready) (stepped : step window call = some next) :
    next.Ready := by
  obtain ⟨answers, depth, event⟩ := call
  rcases step_cases granted ready.allowEditNotify ready.blockEditNotify stepped with
    ⟨middle, acted, refreshed⟩ | quiet | ⟨text, rfl, typed⟩
  · refine ⟨?_, refreshed.blockEditNotify, refreshed.mirrors.holdsOpacity,
      refreshed.mirrors.holds _ (by decide), ?_⟩
    · rw [refreshed.allowEditNotify, acted.allowEditNotify, ready.allowEditNotify]
    · intro icon
      rw [refreshed.hasNotificationIcon] at icon
      obtain ⟨before, other⟩ := acted.hasNotificationIcon icon
      rw [refreshed.values.bool, acted.session, bool_settled_icon ready.holdsIcon other]
      exact ready.icon before
  · refine ⟨?_, ?_, quiet.holdsOpacity ready.holdsOpacity, quiet.holds _ ready.holdsIcon, ?_⟩
    · rw [quiet.rest]
      exact ready.allowEditNotify
    · rw [quiet.rest]
      exact ready.blockEditNotify
    · intro icon
      rw [quiet.values.bool]
      rcases quiet.hasNotificationIcon with same | wanted
      · exact ready.icon (same ▸ icon)
      · exact wanted
  · refine ⟨?_, ?_, typed.holdsOpacity ready.holdsOpacity, typed.holds _ ready.holdsIcon, ?_⟩
    · rw [typed.rest]
      exact ready.allowEditNotify
    · rw [typed.rest]
      exact ready.blockEditNotify
    · intro icon
      rw [typed.rest] at icon
      rw [typed.values.bool, bool_settled_icon ready.holdsIcon (by simp)]
      exact ready.icon icon

theorem start_spec {answers : SettingsAnswers} (granted : answers.Granted) (registry : Registry)
    (adds : Bool) :
    (start registry answers adds).Ready ∧
      SameValues (Preferences.start hkeyCurrentUser registry)
        (start registry answers adds).session ∧
      (start registry answers adds).lastActionClearedSettings = false := by
  let session := Preferences.start hkeyCurrentUser registry
  have readable : answers.readable .defaultOpacity = true := granted.readable _
  -- the program shows its icon as the half second actions do
  have stepped : step (construct registry answers) (answers, 0, .halfSecondActions adds) =
      some (start registry answers adds) := rfl
  obtain ⟨quiet, holds, icon⟩ := step_halfSecondActions granted stepped
  have read : SameValues session (construct registry answers).session :=
    getOpacity_sameValues session _
  have holdsOpacity : HoldsOpacity (construct registry answers).session := by
    show HoldsOpacity (session.perform (.getOpacity (answers.readable .defaultOpacity)))
    rw [readable]
    exact getOpacity_holdsOpacity session
  have without : (construct registry answers).hasNotificationIcon = false := rfl
  refine ⟨⟨?_, ?_, quiet.holdsOpacity holdsOpacity, holds, ?_⟩, read.trans quiet.values, ?_⟩
  · rw [quiet.rest]
    rfl
  · rw [quiet.rest]
    rfl
  · rw [quiet.values.bool, icon, without]
    cases (construct registry answers).session.bool .useNotificationIcon <;> simp
  · rw [quiet.rest]
    rfl

variable {answers : SettingsAnswers} {registry : Registry} {adds : Bool}

/-- The number in the box is the opacity, as far as it is one. -/
def BoxShows (window : AdvancedWindow) : Prop :=
  ∀ number, window.editDefaultOpacity.getEditNum IntegralType.int 0 = (true, number) →
    (window.session.opacity.toNat : Int) = GeneralWindow.clampedOpacity number

structure Shown (window : AdvancedWindow) : Prop where
  mirrors : window.Mirrors
  boxShows : window.BoxShows

theorem number_of_setEditNum {control : EditControl} {opacity : UInt32} {number : Int}
    (small : opacity.toNat ≤ 255)
    (read : (control.setEditNum opacity.toNat).getEditNum IntegralType.int 0 = (true, number)) :
    (opacity.toNat : Int) = GeneralWindow.clampedOpacity number := by
  have written : (control.setEditNum opacity.toNat).readable = true :=
    GeneralWindow.readable_of_parsed read
  have readable : control.readable = true := written
  have fits : IntegralType.int.Fits (opacity.toNat : Int) := by
    simp only [IntegralType.Fits, IntegralType.int, if_true]
    omega
  have whole := EditControl.getEditNum_setEditNum readable fits 0
  rw [whole] at read
  obtain rfl := (Prod.mk.inj read).2
  unfold GeneralWindow.clampedOpacity
  split
  · omega
  · split <;> omega

theorem Refreshed.shown {middle next : AdvancedWindow} (refreshed : Refreshed middle next)
    (small : middle.session.opacity.toNat ≤ 255) : next.Shown := by
  refine ⟨refreshed.mirrors, fun number read => ?_⟩
  rw [refreshed.editDefaultOpacity] at read
  rw [refreshed.values.opacity]
  exact number_of_setEditNum small read

/-- The preferences and `lastActionClearedSettings`, which decides at the end whether the key is
created, against the history. -/
structure Recorded (history : History) (session : Session) (last : Bool) : Prop where
  remembers : Remembers history session
  cleared : history.clearedLast = true → last = true
  changed : history.clearedLast = false → last = true →
    (session.registry hkeyCurrentUser).isSome = true

theorem written_isSome {prefs : Preferences} (key : prefs.miniViewsKey.key = hkeyCurrentUser)
    (registry : Registry) (preference : Preference) (stored : Option UInt32) :
    (prefs.written registry preference ⟨true, true⟩ stored hkeyCurrentUser).isSome = true := by
  simp [Preferences.written, Registry.setValue, Registry.createKey, key]

theorem Recorded.sameValues {history : History} {session next : Session} {last : Bool}
    (recorded : Recorded history session last) (same : SameValues session next) :
    Recorded history next last := by
  refine ⟨recorded.remembers.sameValues same, recorded.cleared, ?_⟩
  rw [same.registry]
  exact recorded.changed

theorem Recorded.settled {history : History} {session : Session} {last : Bool}
    (recorded : Recorded history session last) (event : Event) :
    Recorded (event.changes.elim history history.record) (event.settled session)
      (event.cleared last) := by
  have key := recorded.remembers.key
  rcases changes_cases event with unchanged | ⟨idFrom, which, rfl, toggles, changes⟩ |
    ⟨text, number, rfl, -, changes⟩ | ⟨rfl, changes⟩
  · rw [Event.settled, unchanged, cleared_of_unchanged unchanged]
    exact recorded
  · rw [Event.settled, changes]
    refine ⟨recorded.remembers.toggleBool which, fun cleared => ?_, fun _ _ => ?_⟩
    · cases cleared
    · exact written_isSome key session.registry _ _
  · rw [Event.settled, changes]
    refine ⟨recorded.remembers.setOpacity _, fun cleared => ?_, fun _ _ => ?_⟩
    · cases cleared
    · exact written_isSome key session.registry _ _
  · rw [Event.settled, changes]
    refine ⟨recorded.remembers.clear, fun _ => rfl, fun changed => ?_⟩
    cases changed

structure Follows (history : History) (window : AdvancedWindow) : Prop where
  ready : window.Ready
  recorded : Recorded history window.session window.lastActionClearedSettings

theorem step_follows {history : History} {window next : AdvancedWindow}
    {call : SettingsAnswers × Nat × Event} (granted : call.1.Granted)
    (follows : Follows history window) (stepped : step window call = some next) :
    Follows (history.step call) next := by
  have ready := follows.ready
  refine ⟨step_ready granted ready stepped, ?_⟩
  obtain ⟨answers, depth, event⟩ := call
  have settled := follows.recorded.settled event
  rcases step_cases granted ready.allowEditNotify ready.blockEditNotify stepped with
    ⟨middle, acted, refreshed⟩ | quiet | ⟨text, rfl, typed⟩
  · rw [← acted.session, ← acted.lastActionClearedSettings,
      ← refreshed.lastActionClearedSettings] at settled
    exact settled.sameValues refreshed.values
  · have unmoved : history.step (answers, depth, event) = history := by
      rw [History.step, quiet.changes, Option.elim_none]
    rw [unmoved, quiet.rest]
    exact follows.recorded.sameValues quiet.values
  · have flag : next.lastActionClearedSettings = window.lastActionClearedSettings := by
      rw [typed.rest]
    rw [flag]
    exact settled.sameValues typed.values

theorem start_follows (granted : answers.Granted) :
    Follows History.start (start registry answers adds) := by
  obtain ⟨ready, same, flag⟩ := start_spec granted registry adds
  have fresh : Recorded History.start (Preferences.start hkeyCurrentUser registry) false := by
    refine ⟨⟨rfl, fun _ => rfl, rfl, fun cleared => ?_⟩, fun cleared => ?_, fun _ last => ?_⟩
    · cases cleared
    · cases cleared
    · cases last
  refine ⟨ready, ?_⟩
  rw [flag]
  exact fresh.sameValues same

theorem exit_eq {window : AdvancedWindow}
    (key : window.session.prefs.miniViewsKey.key = hkeyCurrentUser) :
    window.exit true =
      if window.lastActionClearedSettings then window.session.registry
      else window.session.registry.createKey hkeyCurrentUser := by
  rw [exit, ← key]
  cases window.lastActionClearedSettings <;> rfl

theorem exit_value {window : AdvancedWindow}
    (key : window.session.prefs.miniViewsKey.key = hkeyCurrentUser) (valueName : String) :
    (window.exit true).value hkeyCurrentUser valueName =
      window.session.registry.value hkeyCurrentUser valueName := by
  rw [exit_eq key]
  split
  · rfl
  · exact Registry.createKey_value _ _ _ _

theorem start_values_congr {left right : Registry}
    (same : ∀ valueName, left.value hkeyCurrentUser valueName =
      right.value hkeyCurrentUser valueName) :
    (∀ which, (Preferences.start hkeyCurrentUser left).bool which =
        (Preferences.start hkeyCurrentUser right).bool which) ∧
      (Preferences.start hkeyCurrentUser left).opacity =
        (Preferences.start hkeyCurrentUser right).opacity := by
  have stored (preference : Preference) :
      (Preferences.init hkeyCurrentUser).stored left preference =
        (Preferences.init hkeyCurrentUser).stored right preference := same _
  constructor
  · intro which
    rw [Session.bool_eq, Session.bool_eq]
    simp only [Preferences.start, stored]
  · rw [Session.opacity_eq, Session.opacity_eq]
    simp only [Preferences.start, stored]

theorem exit_isSome {history : History} {window : AdvancedWindow}
    (recorded : Recorded history window.session window.lastActionClearedSettings) :
    (window.exit true hkeyCurrentUser).isSome = !history.clearedLast := by
  rw [exit_eq recorded.remembers.key]
  cases cleared : history.clearedLast with
  | true =>
      rw [if_pos (recorded.cleared cleared), recorded.remembers.clearedLast cleared]
      rfl
  | false =>
      split
      · rename_i last
        exact recorded.changed cleared last
      · simp [Registry.createKey]

/-- The program ends and is started again. The key is there unless the preferences were cleared
and nothing was changed since, and each preference is what it was, or its default if nobody
changed it since they were cleared. -/
theorem exit_restarts {calls : List (SettingsAnswers × Nat × Event)} {window : AdvancedWindow}
    (granted : answers.Granted) (granteds : ∀ call ∈ calls, call.1.Granted)
    (run : Runs.final step (start registry answers adds) calls = some window) :
    let history := calls.foldl History.step History.start
    let next := Preferences.start hkeyCurrentUser (window.exit true)
    (window.exit true hkeyCurrentUser).isSome = !history.clearedLast ∧
      (∀ which, next.bool which =
        if history.forgotten (.bool which) then which.defaultValue
        else window.session.bool which) ∧
      next.opacity =
        if history.forgotten .defaultOpacity then opacityDefault else window.session.opacity := by
  intro history next
  have kept : ∀ history window (call : SettingsAnswers × Nat × Event), call.1.Granted →
      Follows history window → ∀ next ∈ step window call, Follows (history.step call) next :=
    fun _ _ _ granted follows _ stepped => step_follows granted follows stepped
  have follows : Follows history window :=
    Runs.final_related kept (start_follows granted) granteds run
  have remembers := follows.recorded.remembers
  have values := start_values_congr fun valueName => exit_value remembers.key valueName
  refine ⟨exit_isSome follows.recorded, fun which => ?_, ?_⟩
  · exact (values.1 which).trans (remembers.bool which)
  · exact values.2.trans remembers.opacity

theorem exit_restarts_cleared :
    ∃ window, Runs.final step (start (fun _ => none) .grantAll true)
        [(.grantAll, 0, .click .checkConfirmExit),
          (.grantAll, 0, .click .buttonClearSavedSettings),
          (.grantAll, 0, .typed (.showing "42".toList))] = some window ∧
      (window.exit true hkeyCurrentUser).isSome = true ∧
      (Preferences.start hkeyCurrentUser (window.exit true)).bool .confirmExit = true ∧
      (Preferences.start hkeyCurrentUser (window.exit true)).opacity = window.session.opacity := by
  obtain ⟨window, run⟩ : ∃ window, Runs.final step (start (fun _ => none) .grantAll true)
    [(.grantAll, 0, .click .checkConfirmExit), (.grantAll, 0, .click .buttonClearSavedSettings),
      (.grantAll, 0, .typed (.showing "42".toList))] = some window := ⟨_, rfl⟩
  have granted : ∀ call ∈ [((.grantAll, 0, .click .checkConfirmExit) :
      SettingsAnswers × Nat × Event), (.grantAll, 0, .click .buttonClearSavedSettings),
      (.grantAll, 0, .typed (.showing "42".toList))], call.1.Granted := by
    simp [SettingsAnswers.grantAll_granted]
  obtain ⟨key, bool, opacity⟩ := exit_restarts SettingsAnswers.grantAll_granted granted run
  exact ⟨window, run, key, bool .confirmExit, opacity⟩

end AdvancedWindow

end LeanMiniViews
