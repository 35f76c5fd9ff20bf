import LeanMiniViews.FirstRun
import LeanMiniViews.OpacityField

/-!
The Advanced tab with the preferences it shows and changes, the notification icon, and what is
left of the preferences when the program ends. The message about an update that failed is left out.
-/

namespace LeanMiniViews

inductive AdvancedId where
  | checkShowDialogOnStart
  | checkUseNotificationIcon
  | checkMinimizeToNotificationIcon
  | checkConfirmExit
  | editDefaultOpacity
  | editDefaultOpacityBuddy
  | checkDefaultMatchSourcePosition
  | checkDefaultMatchSourceSize
  | checkDefaultLockSizeRatio
  | checkDefaultHideWhenSourceOnTop
  | checkUseCachedImageWhenFrozen
  | checkShowFrozenIndicatorIcon
  | checkShowFrozenContextMenuItem
  | buttonClearSavedSettings
deriving DecidableEq, Repr

def AdvancedId.toggles : AdvancedId → Option BoolPreference
  | checkShowDialogOnStart => some .showDialogOnStart
  | checkUseNotificationIcon => some .useNotificationIcon
  | checkMinimizeToNotificationIcon => some .minimizeToNotificationIcon
  | checkConfirmExit => some .confirmExit
  | checkDefaultMatchSourcePosition => some .defaultMatchSourcePosition
  | checkDefaultMatchSourceSize => some .defaultMatchSourceSize
  | checkDefaultLockSizeRatio => some .defaultLockSizeRatio
  | checkDefaultHideWhenSourceOnTop => some .defaultHideWhenSourceOnTop
  | checkUseCachedImageWhenFrozen => some .useCachedImageWhenFrozen
  | checkShowFrozenIndicatorIcon => some .showFrozenIndicatorIcon
  | checkShowFrozenContextMenuItem => some .showFrozenContextMenuItem
  | editDefaultOpacity => none
  | editDefaultOpacityBuddy => none
  | buttonClearSavedSettings => none

structure SettingsAnswers where
  readable : Preference → Bool
  access : WriteAccess
  deletes : Preference → Bool
  deletesKey : Bool

def Preferences.Session.perform (session : Preferences.Session) (call : Preferences.Call) :
    Preferences.Session :=
  (Preferences.step session call).getD session

/-- `AdvancedWindow` with the preferences of the program and whether it has a notification icon.
`checks` and `minimizeEnabled` are what its check boxes show. -/
structure AdvancedWindow where
  session : Preferences.Session
  hasNotificationIcon : Bool
  allowEditNotify : Bool
  blockEditNotify : Bool
  lastActionClearedSettings : Bool
  checks : BoolPreference → Bool
  minimizeEnabled : Bool
  editDefaultOpacity : EditControl

namespace AdvancedWindow

def boolValue (window : AdvancedWindow) (which : BoolPreference) : Bool :=
  (window.session.prefs.bools which).cachedValue

def opacityValue (window : AdvancedWindow) : Int :=
  window.session.prefs.defaultOpacity.cachedValue.toNat

def getBool (answers : SettingsAnswers) (window : AdvancedWindow) (which : BoolPreference) :
    AdvancedWindow :=
  { window with
    session := window.session.perform (.getBool which (answers.readable (.bool which))) }

def getOpacity (answers : SettingsAnswers) (window : AdvancedWindow) : AdvancedWindow :=
  { window with
    session := window.session.perform (.getOpacity (answers.readable .defaultOpacity)) }

def setCheck (window : AdvancedWindow) (which : BoolPreference) (checked : Bool) :
    AdvancedWindow :=
  { window with checks := Function.update window.checks which checked }

def showCheck (answers : SettingsAnswers) (window : AdvancedWindow) (which : BoolPreference) :
    AdvancedWindow :=
  let got := window.getBool answers which
  got.setCheck which (got.boolValue which)

/-- Setting a text notifies the window, and `notified` is what it does then. -/
def setEditNum (notified : AdvancedWindow → AdvancedWindow) (window : AdvancedWindow) :
    AdvancedWindow :=
  notified { window with
    editDefaultOpacity := window.editDefaultOpacity.setEditNum window.opacityValue }

def showMinimize (answers : SettingsAnswers) (window : AdvancedWindow) : AdvancedWindow :=
  if window.boolValue .useNotificationIcon then
    { window.showCheck answers .minimizeToNotificationIcon with minimizeEnabled := true }
  else { window.setCheck .minimizeToNotificationIcon false with minimizeEnabled := false }

def viewDefaults : List BoolPreference :=
  [.defaultMatchSourcePosition, .defaultMatchSourceSize, .defaultLockSizeRatio,
    .defaultHideWhenSourceOnTop, .useCachedImageWhenFrozen, .showFrozenIndicatorIcon,
    .showFrozenContextMenuItem]

def refreshWindow (notified : AdvancedWindow → AdvancedWindow) (answers : SettingsAnswers)
    (window : AdvancedWindow) : AdvancedWindow :=
  let blocked := { window with blockEditNotify := true }
  let first := (blocked.showCheck answers .showDialogOnStart).showCheck answers .useNotificationIcon
  let confirmed := (first.showMinimize answers).showCheck answers .confirmExit
  let written := (confirmed.getOpacity answers).setEditNum notified
  { viewDefaults.foldl (showCheck answers) written with blockEditNotify := false }

def notifyEditUpdated (notified : AdvancedWindow → AdvancedWindow) (answers : SettingsAnswers)
    (window : AdvancedWindow) : AdvancedWindow :=
  if !window.blockEditNotify then
    let newOpacity := window.editDefaultOpacity.getEditNum IntegralType.int 0
    if newOpacity.1 then
      { window with
        session := window.session.perform (.setOpacity
          (UInt32.ofNat (GeneralWindow.clampedOpacity newOpacity.2).toNat) answers.access) }
    else if window.editDefaultOpacity.getTextLength ≠ 0 then
      (window.getOpacity answers).setEditNum notified
    else window
  else window

/-- `ClassWindow::SendNotifyEditUpdated`. `depth` bounds how deep notifications could nest. -/
def sendNotifyEditUpdated (answers : SettingsAnswers) : Nat → AdvancedWindow → AdvancedWindow
  | 0, window => window
  | depth + 1, window =>
      if window.allowEditNotify then
        { notifyEditUpdated (sendNotifyEditUpdated answers depth) answers
            { window with allowEditNotify := false } with
          allowEditNotify := true }
      else window

def removeNotificationIcon (window : AdvancedWindow) : AdvancedWindow :=
  { window with hasNotificationIcon := false }

def createNotificationIcon (adds : Bool) (window : AdvancedWindow) : AdvancedWindow :=
  if window.hasNotificationIcon then window else { window with hasNotificationIcon := adds }

def toggle (answers : SettingsAnswers) (window : AdvancedWindow) (which : BoolPreference) :
    AdvancedWindow :=
  { window with session := window.session.perform (.toggleBool which answers.access) }

def clearSavedPreferences (answers : SettingsAnswers) (window : AdvancedWindow) :
    AdvancedWindow :=
  { window with
    session :=
      window.session.perform (.clearSavedPreferences answers.deletes answers.deletesKey) }

def notifyButtonClicked (notified : AdvancedWindow → AdvancedWindow) (answers : SettingsAnswers)
    (window : AdvancedWindow) (idFrom : AdvancedId) : AdvancedWindow :=
  match idFrom.toggles with
  | some which =>
      let toggled := window.toggle answers which
      let performed :=
        if which = .useNotificationIcon then toggled.removeNotificationIcon else toggled
      { performed with lastActionClearedSettings := false }.refreshWindow notified answers
  | none =>
      if idFrom = .buttonClearSavedSettings then
        { window.clearSavedPreferences answers with
          lastActionClearedSettings := true }.refreshWindow notified answers
      else window

/-! The program around the tab. -/

inductive Event where
  | refresh
  | click (idFrom : AdvancedId)
  | typed (text : EditControl)
  | get (preference : Preference)
  | halfSecondActions (adds : Bool)

/-- `depth` is that of `sendNotifyEditUpdated`. A check box that is disabled cannot be clicked,
and the others change at a click before the window hears of it. -/
def step (window : AdvancedWindow) (call : SettingsAnswers × Nat × Event) :
    Option AdvancedWindow :=
  let answers := call.1
  let notified := sendNotifyEditUpdated answers call.2.1
  match call.2.2 with
  | .refresh => some (window.refreshWindow notified answers)
  | .click idFrom =>
      if idFrom = .checkMinimizeToNotificationIcon ∧ window.minimizeEnabled = false then none
      else
        let clicked := idFrom.toggles.elim window fun which =>
          window.setCheck which (!window.checks which)
        some (clicked.notifyButtonClicked notified answers idFrom)
  | .typed text =>
      some (sendNotifyEditUpdated answers (call.2.1 + 1)
        { window with editDefaultOpacity := text })
  | .get (.bool which) => some (window.getBool answers which)
  | .get .defaultOpacity => some (window.getOpacity answers)
  | .halfSecondActions adds =>
      let got := window.getBool answers .useNotificationIcon
      some (if got.boolValue .useNotificationIcon then got.createNotificationIcon adds else got)

/-- The constructor of `MiniViews`, with a dialog whose edit box is new. -/
def construct (registry : Registry) (answers : SettingsAnswers) : AdvancedWindow :=
  let session := Preferences.start hkeyCurrentUser registry
  let constructed : AdvancedWindow :=
    ⟨session, false, true, false, false, fun _ => false, true, .showing []⟩
  constructed.getOpacity answers

def transparencyAlpha (window : AdvancedWindow) : UInt8 :=
  window.session.prefs.defaultOpacity.cachedValue.toUInt8

/-- As far as the loop of `MiniViews::Run`. -/
def start (registry : Registry) (answers : SettingsAnswers) (adds : Bool) : AdvancedWindow :=
  let got := (construct registry answers).getBool answers .useNotificationIcon
  if got.boolValue .useNotificationIcon then got.createNotificationIcon adds else got

/-- The end of `MiniViews::Run`, and what it leaves in the registry. -/
def exit (window : AdvancedWindow) (creates : Bool) : Registry :=
  if !window.lastActionClearedSettings then
    (window.session.perform (.setNotFirstRun creates)).registry
  else window.session.registry

end AdvancedWindow

end LeanMiniViews
