import LeanMiniViews.AdvancedRefresh

/-!
What one event does to the Advanced tab where the registry grants everything: it settles the
preferences first, and the controls are refreshed from them or left alone.
-/

namespace LeanMiniViews

open Preferences

/-- Every preference can be read, written and deleted, and the key with them. -/
structure SettingsAnswers.Granted (answers : SettingsAnswers) : Prop where
  readable : answers.Readable
  access : answers.access = ⟨true, true⟩
  deletes : ∀ preference, answers.deletes preference = true
  deletesKey : answers.deletesKey = true

def SettingsAnswers.grantAll : SettingsAnswers := ⟨fun _ => true, ⟨true, true⟩, fun _ => true, true⟩

theorem SettingsAnswers.grantAll_granted : grantAll.Granted :=
  ⟨fun _ => rfl, rfl, fun _ => rfl, rfl⟩

theorem SettingsAnswers.Granted.deletes_eq {answers : SettingsAnswers}
    (granted : answers.Granted) : answers.deletes = fun _ => true := funext granted.deletes

namespace AdvancedWindow

/-- The change of the preferences that the event asks for. -/
def Event.changes : Event → Option Preferences.Call
  | .click idFrom =>
      match idFrom.toggles with
      | some which => some (.toggleBool which ⟨true, true⟩)
      | none =>
          if idFrom = .buttonClearSavedSettings then
            some (.clearSavedPreferences (fun _ => true) true)
          else none
  | .typed text =>
      let newOpacity := text.getEditNum IntegralType.int 0
      if newOpacity.1 then
        some (.setOpacity (UInt32.ofNat (GeneralWindow.clampedOpacity newOpacity.2).toNat)
          ⟨true, true⟩)
      else none
  | .refresh => none
  | .get _ => none
  | .halfSecondActions _ => none

def Event.settled (event : Event) (session : Session) : Session :=
  event.changes.elim session session.perform

/-- What `lastActionClearedSettings` is after the event. -/
def Event.cleared : Event → Bool → Bool
  | .click idFrom, last =>
      if idFrom.toggles.isSome then false
      else if idFrom = .buttonClearSavedSettings then true
      else last
  | _, last => last

/-- The window that a refresh then shows. -/
structure Acted (window : AdvancedWindow) (event : Event) (middle : AdvancedWindow) : Prop where
  session : middle.session = event.settled window.session
  hasNotificationIcon : middle.hasNotificationIcon = true →
    window.hasNotificationIcon = true ∧ event ≠ .click .checkUseNotificationIcon
  allowEditNotify : middle.allowEditNotify = window.allowEditNotify
  lastActionClearedSettings :
    middle.lastActionClearedSettings = event.cleared window.lastActionClearedSettings

/-- The preferences were only read, and the controls are left alone. -/
structure Quiet (window : AdvancedWindow) (event : Event) (next : AdvancedWindow) : Prop where
  changes : event.changes = none
  rest : next = { window with
    session := next.session
    hasNotificationIcon := next.hasNotificationIcon }
  values : SameValues window.session next.session
  holds : ∀ which, Holds window.session which → Holds next.session which
  holdsOpacity : HoldsOpacity window.session → HoldsOpacity next.session
  hasNotificationIcon : next.hasNotificationIcon = window.hasNotificationIcon ∨
    window.session.bool .useNotificationIcon = true

/-- A number went to the opacity; anything else was replaced by it, unless the box is empty. -/
structure Typed (window : AdvancedWindow) (text : EditControl) (next : AdvancedWindow) : Prop where
  rest : next = { window with
    session := next.session
    editDefaultOpacity := next.editDefaultOpacity }
  number : ∀ number, text.getEditNum IntegralType.int 0 = (true, number) →
    next.editDefaultOpacity = text
  noNumber : (text.getEditNum IntegralType.int 0).1 = false →
    next.editDefaultOpacity = text ∨
      next.editDefaultOpacity = text.setEditNum window.session.opacity.toNat
  values : SameValues (Event.settled (.typed text) window.session) next.session
  holds : ∀ which, Holds window.session which → Holds next.session which
  holdsOpacity : HoldsOpacity window.session → HoldsOpacity next.session

variable {answers : SettingsAnswers}

theorem sendNotifyEditUpdated_guarded {window : AdvancedWindow}
    (guarded : window.allowEditNotify = false) (depth : Nat) :
    sendNotifyEditUpdated answers depth window = window := by
  cases depth with
  | zero => rfl
  | succ depth => simp [sendNotifyEditUpdated, guarded]

theorem toggle_acted (granted : answers.Granted) {window : AdvancedWindow} {idFrom : AdvancedId}
    {which : BoolPreference} (toggles : idFrom.toggles = some which) (checked : Bool) :
    let toggled := (window.setCheck which checked).toggle answers which
    let performed :=
      if which = .useNotificationIcon then toggled.removeNotificationIcon else toggled
    Acted window (.click idFrom) { performed with lastActionClearedSettings := false } := by
  intro toggled performed
  have session : performed.session = toggled.session := by
    simp only [performed]
    split <;> rfl
  have allowed : performed.allowEditNotify = window.allowEditNotify := by
    simp only [performed]
    split <;> rfl
  refine ⟨?_, ?_, allowed, ?_⟩
  · show performed.session = _
    rw [session]
    simp only [toggled, toggle, setCheck, Event.settled, Event.changes, toggles, granted.access,
      Option.elim_some]
  · show performed.hasNotificationIcon = true → _
    simp only [performed]
    split
    · exact fun icon => absurd icon Bool.false_ne_true
    · rename_i other
      refine fun icon => ⟨icon, ?_⟩
      intro same
      cases same
      exact other (Option.some.inj toggles).symm
  · simp [Event.cleared, toggles]

theorem clear_acted (granted : answers.Granted) (window : AdvancedWindow) :
    Acted window (.click .buttonClearSavedSettings)
      { window.clearSavedPreferences answers with lastActionClearedSettings := true } := by
  refine ⟨?_, ?_, rfl, rfl⟩
  · show window.session.perform (.clearSavedPreferences answers.deletes answers.deletesKey) = _
    rw [granted.deletes_eq, granted.deletesKey]
    rfl
  · refine fun icon => ⟨icon, ?_⟩
    intro same
    cases same

theorem step_click (granted : answers.Granted) {window next : AdvancedWindow}
    {idFrom : AdvancedId} {depth : Nat}
    (stepped : step window (answers, depth, .click idFrom) = some next) :
    (∃ middle, Acted window (.click idFrom) middle ∧ Refreshed middle next) ∨
      Quiet window (.click idFrom) next := by
  simp only [step] at stepped
  split at stepped
  · cases stepped
  · cases stepped
    cases toggles : idFrom.toggles with
    | some which =>
        left
        simp only [notifyButtonClicked, toggles, Option.elim_some]
        exact ⟨_, toggle_acted granted toggles _,
          refreshWindow_refreshed granted.readable depth _⟩
    | none =>
        by_cases clears : idFrom = .buttonClearSavedSettings
        · left
          subst clears
          exact ⟨_, clear_acted granted window, refreshWindow_refreshed granted.readable depth _⟩
        · right
          simp only [notifyButtonClicked, toggles, clears, if_false, Option.elim_none]
          refine ⟨?_, rfl, .refl _, fun _ holds => holds, fun holds => holds, Or.inl rfl⟩
          simp [Event.changes, toggles, clears]

theorem step_typed (granted : answers.Granted) {window next : AdvancedWindow} {text : EditControl}
    {depth : Nat} (allowed : window.allowEditNotify = true)
    (heard : window.blockEditNotify = false)
    (stepped : step window (answers, depth, .typed text) = some next) :
    Typed window text next := by
  cases stepped
  obtain ⟨session, hasIcon, allows, blocks, lastAction, checks, enabled, edit⟩ := window
  obtain rfl : allows = true := allowed
  obtain rfl : blocks = false := heard
  let window : AdvancedWindow :=
    ⟨session, hasIcon, true, false, lastAction, checks, enabled, edit⟩
  let handled := { window with editDefaultOpacity := text, allowEditNotify := false }
  rw [sendNotifyEditUpdated, if_pos rfl]
  show Typed window text
    { notifyEditUpdated (sendNotifyEditUpdated answers depth) answers handled with
      allowEditNotify := true }
  rw [notifyEditUpdated, if_pos (show (!handled.blockEditNotify) = true from rfl)]
  by_cases parsed : (text.getEditNum IntegralType.int 0).1 = true
  · let set := Preferences.Call.setOpacity (UInt32.ofNat
      (GeneralWindow.clampedOpacity (text.getEditNum IntegralType.int 0).2).toNat) ⟨true, true⟩
    have settled : Event.settled (.typed text) window.session = window.session.perform set := by
      simp only [Event.settled, Event.changes, if_pos parsed, Option.elim_some, set]
    rw [if_pos (show (handled.editDefaultOpacity.getEditNum IntegralType.int 0).1 = true from
      parsed), granted.access]
    refine ⟨?_, fun _ _ => rfl, fun _ => Or.inl rfl, ?_, ?_, fun _ => rfl⟩
    · rfl
    · rw [settled]
      exact .refl _
    · intro which holds
      exact holds.trans (window.session.bool_setOpacity _ which).symm
  · have settled : Event.settled (.typed text) window.session = window.session := by
      simp only [Event.settled, Event.changes, if_neg parsed, Option.elim_none]
    rw [if_neg (show ¬ (handled.editDefaultOpacity.getEditNum IntegralType.int 0).1 = true from
      parsed)]
    have unparsed (number : Int)
        (read : text.getEditNum IntegralType.int 0 = (true, number)) : False :=
      parsed (by rw [read])
    split
    · have readable : answers.readable .defaultOpacity = true := granted.readable _
      simp only [setEditNum, getOpacity, opacityValue, readable]
      rw [sendNotifyEditUpdated_guarded rfl]
      refine ⟨?_, fun number read => (unparsed number read).elim, ?_, ?_, fun _ holds => holds, ?_⟩
      · rfl
      · exact fun _ => Or.inr rfl
      · rw [settled]
        exact getOpacity_sameValues window.session true
      · exact fun _ => getOpacity_holdsOpacity window.session
    · refine ⟨?_, fun _ _ => rfl, fun _ => Or.inl rfl, ?_, fun _ holds => holds, fun h => h⟩
      · rfl
      · rw [settled]
        exact .refl _

theorem getBool_quiet (readable : answers.Readable) (window : AdvancedWindow)
    (which : BoolPreference) {event : Event} (changes : event.changes = none) :
    Quiet window event (window.getBool answers which) := by
  have granted : answers.readable (.bool which) = true := readable _
  refine ⟨changes, rfl, getBool_sameValues _ _ _, ?_, fun holds => holds, Or.inl rfl⟩
  intro other holds
  rw [getBool, granted]
  exact holds.getBool which

theorem step_get (granted : answers.Granted) {window next : AdvancedWindow}
    {preference : Preference} {depth : Nat}
    (stepped : step window (answers, depth, .get preference) = some next) :
    Quiet window (.get preference) next := by
  cases preference with
  | bool which =>
      cases stepped
      exact getBool_quiet granted.readable window which rfl
  | defaultOpacity =>
      cases stepped
      have readable : answers.readable .defaultOpacity = true := granted.readable _
      refine ⟨rfl, rfl, getOpacity_sameValues _ _, fun _ holds => holds, ?_, Or.inl rfl⟩
      intro _
      rw [getOpacity, readable]
      exact getOpacity_holdsOpacity window.session

theorem boolValue_getBool (readable : answers.Readable) (window : AdvancedWindow)
    (which : BoolPreference) :
    (window.getBool answers which).boolValue which = window.session.bool which := by
  have granted : answers.readable (.bool which) = true := readable _
  rw [boolValue, getBool, granted]
  exact window.session.cached_getBool which

theorem step_halfSecondActions (granted : answers.Granted) {window next : AdvancedWindow}
    {adds : Bool} {depth : Nat}
    (stepped : step window (answers, depth, .halfSecondActions adds) = some next) :
    Quiet window (.halfSecondActions adds) next ∧ Holds next.session .useNotificationIcon ∧
      next.hasNotificationIcon =
        if window.session.bool .useNotificationIcon then window.hasNotificationIcon || adds
        else window.hasNotificationIcon := by
  cases stepped
  have holds : Holds (window.getBool answers .useNotificationIcon).session
      .useNotificationIcon := by
    rw [getBool, granted.readable]
    exact getBool_holds window.session .useNotificationIcon
  have got : Quiet window (.halfSecondActions adds)
      (window.getBool answers .useNotificationIcon) :=
    getBool_quiet granted.readable window _ rfl
  rw [boolValue_getBool granted.readable]
  cases wanted : window.session.bool .useNotificationIcon with
  | false =>
      rw [if_neg Bool.false_ne_true]
      exact ⟨got, holds, rfl⟩
  | true =>
      rw [if_pos rfl, createNotificationIcon]
      cases icon : window.hasNotificationIcon with
      | true =>
          rw [if_pos (show (window.getBool answers .useNotificationIcon).hasNotificationIcon = true
            from icon)]
          exact ⟨got, holds, icon⟩
      | false =>
          rw [if_neg (by rw [show (window.getBool answers .useNotificationIcon).hasNotificationIcon
            = false from icon]; exact Bool.false_ne_true)]
          refine ⟨⟨rfl, rfl, got.values, got.holds, got.holdsOpacity, Or.inr wanted⟩, holds, ?_⟩
          simp

/-- The changes an event can ask for. -/
theorem changes_cases (event : Event) :
    event.changes = none ∨
    (∃ idFrom which, event = .click idFrom ∧ idFrom.toggles = some which ∧
      event.changes = some (.toggleBool which ⟨true, true⟩)) ∨
    (∃ text number, event = .typed text ∧
      text.getEditNum IntegralType.int 0 = (true, number) ∧
      event.changes = some (.setOpacity
        (UInt32.ofNat (GeneralWindow.clampedOpacity number).toNat) ⟨true, true⟩)) ∨
    (event = .click .buttonClearSavedSettings ∧
      event.changes = some (.clearSavedPreferences (fun _ => true) true)) := by
  cases event with
  | click idFrom =>
      cases toggles : idFrom.toggles with
      | some which => exact Or.inr (Or.inl ⟨idFrom, which, rfl, toggles, by
          simp [Event.changes, toggles]⟩)
      | none =>
          by_cases clears : idFrom = .buttonClearSavedSettings
          · subst clears
            exact Or.inr (Or.inr (Or.inr ⟨rfl, rfl⟩))
          · exact Or.inl (by simp [Event.changes, toggles, clears])
  | typed text =>
      cases parsed : text.getEditNum IntegralType.int 0 with
      | mk read number =>
          cases read with
          | true => exact Or.inr (Or.inr (Or.inl ⟨text, number, rfl, parsed, by
              simp [Event.changes, parsed]⟩))
          | false => exact Or.inl (by simp [Event.changes, parsed])
  | refresh => exact Or.inl rfl
  | get preference => exact Or.inl rfl
  | halfSecondActions adds => exact Or.inl rfl

theorem cleared_of_unchanged {event : Event} (unchanged : event.changes = none) (last : Bool) :
    event.cleared last = last := by
  cases event with
  | click idFrom =>
      cases toggles : idFrom.toggles with
      | some which => simp [Event.changes, toggles] at unchanged
      | none =>
          have other : idFrom ≠ .buttonClearSavedSettings := by
            simpa [Event.changes, toggles] using unchanged
          simp [Event.cleared, toggles, other]
  | _ => rfl

/-- Everything an event can do. -/
theorem step_cases (granted : answers.Granted) {window next : AdvancedWindow} {depth : Nat}
    {event : Event} (allowed : window.allowEditNotify = true)
    (heard : window.blockEditNotify = false)
    (stepped : step window (answers, depth, event) = some next) :
    (∃ middle, Acted window event middle ∧ Refreshed middle next) ∨ Quiet window event next ∨
      ∃ text, event = .typed text ∧ Typed window text next := by
  cases event with
  | refresh =>
      cases stepped
      refine Or.inl ⟨window, ⟨rfl, fun icon => ⟨icon, ?_⟩, rfl, rfl⟩,
        refreshWindow_refreshed granted.readable depth window⟩
      intro same
      cases same
  | click idFrom => exact (step_click granted stepped).imp_right Or.inl
  | typed text => exact Or.inr (Or.inr ⟨text, rfl, step_typed granted allowed heard stepped⟩)
  | get preference => exact Or.inr (Or.inl (step_get granted stepped))
  | halfSecondActions adds => exact Or.inr (Or.inl (step_halfSecondActions granted stepped).1)

end AdvancedWindow

end LeanMiniViews
