import LeanMiniViews.SessionValues

/-!
What `RefreshWindow` of the Advanced tab leaves: the controls show the preferences as they are,
and showing them changes none.
-/

namespace LeanMiniViews

open Preferences

namespace Preferences

/-- Nothing was written, and every preference is what it was. -/
structure SameValues (session next : Session) : Prop where
  bool : ∀ which, next.bool which = session.bool which
  opacity : next.opacity = session.opacity
  registry : next.registry = session.registry
  miniViewsKey : next.prefs.miniViewsKey = session.prefs.miniViewsKey

theorem SameValues.refl (session : Session) : SameValues session session :=
  ⟨fun _ => rfl, rfl, rfl, rfl⟩

theorem SameValues.trans {session middle next : Session} (first : SameValues session middle)
    (second : SameValues middle next) : SameValues session next :=
  ⟨fun which => (second.bool which).trans (first.bool which),
    second.opacity.trans first.opacity, second.registry.trans first.registry,
    second.miniViewsKey.trans first.miniViewsKey⟩

theorem getBool_sameValues (session : Session) (which : BoolPreference) (readable : Bool) :
    SameValues session (session.perform (.getBool which readable)) :=
  ⟨fun other => session.bool_getBool which other readable, session.opacity_getBool which readable,
    rfl, rfl⟩

theorem getOpacity_sameValues (session : Session) (readable : Bool) :
    SameValues session (session.perform (.getOpacity readable)) :=
  ⟨fun other => session.bool_getOpacity other readable, session.opacity_getOpacity readable,
    rfl, rfl⟩

/-- The object holds what the preference is. -/
def Holds (session : Session) (which : BoolPreference) : Prop :=
  (session.prefs.bools which).cachedValue = session.bool which

def HoldsOpacity (session : Session) : Prop :=
  session.prefs.defaultOpacity.cachedValue = session.opacity

theorem getBool_holds (session : Session) (which : BoolPreference) :
    Holds (session.perform (.getBool which true)) which := by
  rw [Holds, session.cached_getBool, session.bool_getBool]

theorem Holds.getBool {session : Session} {which : BoolPreference} (holds : Holds session which)
    (other : BoolPreference) : Holds (session.perform (.getBool other true)) which := by
  by_cases same : which = other
  · subst same
    exact getBool_holds session which
  · rw [Holds, session.cached_getBool_other same, session.bool_getBool]
    exact holds

theorem getOpacity_holdsOpacity (session : Session) :
    HoldsOpacity (session.perform (.getOpacity true)) := by
  rw [HoldsOpacity, session.cached_getOpacity, session.opacity_getOpacity]

end Preferences

def SettingsAnswers.Readable (answers : SettingsAnswers) : Prop :=
  ∀ preference, answers.readable preference = true

namespace AdvancedWindow

/-- The check boxes in `shown` were set to their preferences, and nothing else was done. -/
structure Showed (shown : List BoolPreference) (window next : AdvancedWindow) : Prop where
  rest : next = { window with session := next.session, checks := next.checks }
  values : SameValues window.session next.session
  checks : ∀ which, next.checks which =
    if which ∈ shown then window.session.bool which else window.checks which
  holds : ∀ which, which ∈ shown ∨ Holds window.session which → Holds next.session which
  holdsOpacity : HoldsOpacity window.session → HoldsOpacity next.session

theorem Showed.trans {first second : List BoolPreference} {window middle next : AdvancedWindow}
    (before : Showed first window middle) (after : Showed second middle next) :
    Showed (first ++ second) window next := by
  refine ⟨?_, before.values.trans after.values, ?_, ?_, ?_⟩
  · rw [after.rest, before.rest]
  · intro which
    rw [after.checks, before.checks, before.values.bool]
    by_cases later : which ∈ second
    · simp [later]
    · simp [later]
  · rintro which (listed | held)
    · refine after.holds which ?_
      rcases List.mem_append.mp listed with here | later
      · exact Or.inr (before.holds which (Or.inl here))
      · exact Or.inl later
    · exact after.holds which (Or.inr (before.holds which (Or.inr held)))
  · exact fun held => after.holdsOpacity (before.holdsOpacity held)

variable {answers : SettingsAnswers}

theorem showCheck_showed (readable : answers.Readable) (window : AdvancedWindow)
    (which : BoolPreference) : Showed [which] window (window.showCheck answers which) := by
  have granted : answers.readable (.bool which) = true := readable _
  refine ⟨rfl, getBool_sameValues _ _ _, ?_, ?_, fun held => held⟩
  · intro other
    have shown : (window.getBool answers which).boolValue which = window.session.bool which := by
      rw [boolValue, getBool, granted]
      exact window.session.cached_getBool which
    simp only [showCheck, setCheck, Function.update_apply, List.mem_singleton, shown]
    split
    · rename_i same
      rw [same]
    · rfl
  · simp only [showCheck, setCheck, getBool, granted]
    rintro other (listed | held)
    · rw [List.mem_singleton.mp listed]
      exact getBool_holds window.session which
    · exact held.getBool which

theorem showChecks_showed (readable : answers.Readable) (window : AdvancedWindow)
    (shown : List BoolPreference) :
    Showed shown window (shown.foldl (showCheck answers) window) := by
  induction shown generalizing window with
  | nil => exact ⟨rfl, .refl _, by simp, by simp, fun held => held⟩
  | cons which rest ih =>
      exact (showCheck_showed readable window which).trans (ih (window.showCheck answers which))

/-- Nothing is heard of a change while the window is refreshed. -/
theorem sendNotifyEditUpdated_blocked {window : AdvancedWindow}
    (blocked : window.blockEditNotify = true) (depth : Nat) :
    sendNotifyEditUpdated answers depth window = window := by
  cases depth with
  | zero => rfl
  | succ depth =>
      rw [sendNotifyEditUpdated]
      split
      · rename_i allowed
        cases window
        simp_all [notifyEditUpdated]
      · rfl

/-- The boxes that are set to their preferences whatever they are. -/
def alwaysShown : List BoolPreference :=
  .showDialogOnStart :: .useNotificationIcon :: .confirmExit :: viewDefaults

/-- The check boxes show the preferences, and the objects behind them hold what they show. -/
structure Mirrors (window : AdvancedWindow) : Prop where
  checks : ∀ which ∈ alwaysShown, window.checks which = window.session.bool which
  minimize : window.checks .minimizeToNotificationIcon =
    (window.session.bool .useNotificationIcon && window.session.bool .minimizeToNotificationIcon)
  minimizeEnabled : window.minimizeEnabled = window.session.bool .useNotificationIcon
  holds : ∀ which ∈ alwaysShown, Holds window.session which
  holdsMinimize : window.minimizeEnabled = true →
    Holds window.session .minimizeToNotificationIcon
  holdsOpacity : HoldsOpacity window.session

/-- What a refresh leaves. -/
structure Refreshed (window next : AdvancedWindow) : Prop where
  values : SameValues window.session next.session
  mirrors : next.Mirrors
  editDefaultOpacity : next.editDefaultOpacity =
    window.editDefaultOpacity.setEditNum window.session.opacity.toNat
  hasNotificationIcon : next.hasNotificationIcon = window.hasNotificationIcon
  allowEditNotify : next.allowEditNotify = window.allowEditNotify
  blockEditNotify : next.blockEditNotify = false
  lastActionClearedSettings : next.lastActionClearedSettings = window.lastActionClearedSettings

/-- What `showMinimize` leaves where the preference of the icon is known. -/
structure MinimizeShown (window next : AdvancedWindow) : Prop where
  rest : next = { window with
    session := next.session
    checks := next.checks
    minimizeEnabled := window.session.bool .useNotificationIcon }
  values : SameValues window.session next.session
  minimize : next.checks .minimizeToNotificationIcon =
    (window.session.bool .useNotificationIcon && window.session.bool .minimizeToNotificationIcon)
  others : ∀ which, which ≠ .minimizeToNotificationIcon →
    next.checks which = window.checks which
  holds : ∀ which, Holds window.session which → Holds next.session which
  holdsMinimize : window.session.bool .useNotificationIcon = true →
    Holds next.session .minimizeToNotificationIcon

theorem showMinimize_shown (readable : answers.Readable) {window : AdvancedWindow}
    (held : Holds window.session .useNotificationIcon) :
    MinimizeShown window (window.showMinimize answers) := by
  unfold showMinimize
  rw [boolValue, held]
  cases icon : window.session.bool .useNotificationIcon with
  | true =>
      have shown := showCheck_showed readable window .minimizeToNotificationIcon
      rw [if_pos rfl]
      refine ⟨by rw [icon]; rfl, shown.values, ?_, ?_, ?_, ?_⟩
      · simp [shown.checks, icon]
      · intro which different
        simp [shown.checks, different]
      · exact fun which holds => shown.holds which (Or.inr holds)
      · exact fun _ => shown.holds _ (Or.inl (List.mem_singleton.mpr rfl))
  | false =>
      rw [if_neg Bool.false_ne_true]
      refine ⟨by rw [icon]; rfl, .refl _, ?_, ?_, fun _ holds => holds, ?_⟩
      · simp [setCheck, icon]
      · intro which different
        simp [setCheck, different]
      · intro on
        rw [icon] at on
        cases on

/-- A refresh shows the first boxes, the one for minimizing and the one for the exit, writes the
opacity, and shows the defaults of the views. -/
structure Stages (window first minimized confirmed written last : AdvancedWindow) : Prop where
  early : Showed [.showDialogOnStart, .useNotificationIcon] window first
  minimizing : MinimizeShown first minimized
  exiting : Showed [.confirmExit] minimized confirmed
  rest : written = { confirmed with
    session := written.session
    editDefaultOpacity := written.editDefaultOpacity }
  values : SameValues confirmed.session written.session
  held : ∀ which, Holds confirmed.session which → Holds written.session which
  defaults : Showed viewDefaults written last

section Stages

variable {window first minimized confirmed written last : AdvancedWindow}

theorem Stages.toConfirmed (stages : Stages window first minimized confirmed written last) :
    SameValues window.session confirmed.session :=
  (stages.early.values.trans stages.minimizing.values).trans stages.exiting.values

theorem Stages.toWritten (stages : Stages window first minimized confirmed written last) :
    SameValues window.session written.session := stages.toConfirmed.trans stages.values

theorem Stages.toLast (stages : Stages window first minimized confirmed written last) :
    SameValues window.session last.session := stages.toWritten.trans stages.defaults.values

/-- The box keeps what it showed before the opacity was written. -/
theorem Stages.kept (stages : Stages window first minimized confirmed written last)
    {which : BoolPreference} (other : which ∉ viewDefaults) :
    last.checks which = confirmed.checks which := by
  rw [stages.defaults.checks, if_neg other, stages.rest]

theorem Stages.box (stages : Stages window first minimized confirmed written last)
    {which : BoolPreference} (listed : which ∈ alwaysShown) :
    last.checks which = window.session.bool which ∧ Holds last.session which := by
  by_cases later : which ∈ viewDefaults
  · refine ⟨?_, stages.defaults.holds which (Or.inl later)⟩
    rw [stages.defaults.checks, if_pos later]
    exact stages.toWritten.bool which
  · have holdsLast (holds : Holds confirmed.session which) : Holds last.session which :=
      stages.defaults.holds which (Or.inr (stages.held which holds))
    rw [stages.kept later, stages.exiting.checks]
    by_cases exit : which ∈ [BoolPreference.confirmExit]
    · rw [if_pos exit, (stages.early.values.trans stages.minimizing.values).bool]
      exact ⟨rfl, holdsLast (stages.exiting.holds which (Or.inl exit))⟩
    · have early : which ∈ [BoolPreference.showDialogOnStart, .useNotificationIcon] := by
        simp only [alwaysShown, List.mem_cons] at listed exit ⊢
        tauto
      have different : which ≠ .minimizeToNotificationIcon := by
        rintro rfl
        exact absurd early (by decide)
      have holdsFirst : Holds first.session which := stages.early.holds which (Or.inl early)
      rw [if_neg exit, stages.minimizing.others which different, stages.early.checks,
        if_pos early]
      exact ⟨rfl, holdsLast (stages.exiting.holds which
        (Or.inr (stages.minimizing.holds which holdsFirst)))⟩

theorem Stages.minimize (stages : Stages window first minimized confirmed written last) :
    last.checks .minimizeToNotificationIcon =
      (last.session.bool .useNotificationIcon &&
        last.session.bool .minimizeToNotificationIcon) := by
  rw [stages.kept (by decide), stages.exiting.checks, if_neg (by decide),
    stages.minimizing.minimize, stages.toLast.bool, stages.toLast.bool, stages.early.values.bool,
    stages.early.values.bool]

theorem Stages.minimizeEnabled (stages : Stages window first minimized confirmed written last) :
    last.minimizeEnabled = window.session.bool .useNotificationIcon := by
  rw [stages.defaults.rest, stages.rest, stages.exiting.rest, stages.minimizing.rest]
  exact stages.early.values.bool _

theorem Stages.holdsMinimize (stages : Stages window first minimized confirmed written last)
    (on : last.minimizeEnabled = true) : Holds last.session .minimizeToNotificationIcon := by
  have icon : first.session.bool .useNotificationIcon = true := by
    rw [stages.early.values.bool, ← stages.minimizeEnabled]
    exact on
  have shown : Holds confirmed.session .minimizeToNotificationIcon :=
    stages.exiting.holds _ (Or.inr (stages.minimizing.holdsMinimize icon))
  exact stages.defaults.holds _ (Or.inr (stages.held _ shown))

theorem Stages.mirrors (stages : Stages window first minimized confirmed written last)
    (opacity : HoldsOpacity written.session) : last.Mirrors where
  checks which listed := (stages.box listed).1.trans (stages.toLast.bool which).symm
  minimize := stages.minimize
  minimizeEnabled := stages.minimizeEnabled.trans (stages.toLast.bool _).symm
  holds _ listed := (stages.box listed).2
  holdsMinimize := stages.holdsMinimize
  holdsOpacity := stages.defaults.holdsOpacity opacity

end Stages

theorem refreshWindow_refreshed (readable : answers.Readable) (depth : Nat)
    (window : AdvancedWindow) :
    Refreshed window (window.refreshWindow (sendNotifyEditUpdated answers depth) answers) := by
  let blocked := { window with blockEditNotify := true }
  let first := (blocked.showCheck answers .showDialogOnStart).showCheck answers .useNotificationIcon
  let minimized := first.showMinimize answers
  let confirmed := minimized.showCheck answers .confirmExit
  let got := confirmed.getOpacity answers
  let written := { got with
    editDefaultOpacity := got.editDefaultOpacity.setEditNum got.opacityValue }
  let last := viewDefaults.foldl (showCheck answers) written
  have early : Showed [.showDialogOnStart, .useNotificationIcon] blocked first :=
    showChecks_showed readable blocked [.showDialogOnStart, .useNotificationIcon]
  have stages : Stages blocked first minimized confirmed written last :=
    ⟨early, showMinimize_shown readable (early.holds _ (Or.inl (by simp))),
      showCheck_showed readable minimized .confirmExit, rfl, getOpacity_sameValues _ _,
      fun _ holds => holds, showChecks_showed readable written viewDefaults⟩
  have granted : answers.readable .defaultOpacity = true := readable _
  have opacity : HoldsOpacity written.session := by
    show HoldsOpacity (confirmed.session.perform (.getOpacity (answers.readable .defaultOpacity)))
    rw [granted]
    exact getOpacity_holdsOpacity confirmed.session
  have shownOpacity : got.session.prefs.defaultOpacity.cachedValue = confirmed.session.opacity := by
    have read := confirmed.session.cached_getOpacity
    rwa [← granted] at read
  have untouched : confirmed.blockEditNotify = true ∧
      confirmed.hasNotificationIcon = window.hasNotificationIcon ∧
      confirmed.allowEditNotify = window.allowEditNotify ∧
      confirmed.lastActionClearedSettings = window.lastActionClearedSettings ∧
      confirmed.editDefaultOpacity = window.editDefaultOpacity := by
    rw [stages.exiting.rest, stages.minimizing.rest, stages.early.rest]
    exact ⟨rfl, rfl, rfl, rfl, rfl⟩
  obtain ⟨deaf, icon, allows, cleared, text⟩ := untouched
  have refreshed : window.refreshWindow (sendNotifyEditUpdated answers depth) answers =
      { last with blockEditNotify := false } := by
    show { viewDefaults.foldl (showCheck answers) (sendNotifyEditUpdated answers depth written) with
      blockEditNotify := false } = _
    rw [sendNotifyEditUpdated_blocked (show written.blockEditNotify = true from deaf)]
  have mirrors := stages.mirrors opacity
  have box : written.editDefaultOpacity =
      window.editDefaultOpacity.setEditNum window.session.opacity.toNat := by
    show confirmed.editDefaultOpacity.setEditNum got.opacityValue = _
    rw [opacityValue, shownOpacity, stages.toConfirmed.opacity, text]
  rw [refreshed]
  refine ⟨stages.toLast, ⟨mirrors.checks, mirrors.minimize, mirrors.minimizeEnabled,
    mirrors.holds, mirrors.holdsMinimize, mirrors.holdsOpacity⟩, ?_, ?_, ?_, rfl, ?_⟩
  · show last.editDefaultOpacity = _
    rw [stages.defaults.rest]
    exact box
  · show last.hasNotificationIcon = _
    rw [stages.defaults.rest]
    exact icon
  · show last.allowEditNotify = _
    rw [stages.defaults.rest]
    exact allows
  · show last.lastActionClearedSettings = _
    rw [stages.defaults.rest]
    exact cleared

end AdvancedWindow

end LeanMiniViews
