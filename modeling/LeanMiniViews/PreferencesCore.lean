import LeanMiniViews.RegistryCore

/-!
The preferences, each kept in the registry under its own name, and the key they are all kept
under. There is no other writer to the registry.
-/

namespace LeanMiniViews

inductive BoolPreference where
  | showDialogOnStart
  | useNotificationIcon
  | minimizeToNotificationIcon
  | confirmExit
  | defaultMatchSourcePosition
  | defaultMatchSourceSize
  | defaultLockSizeRatio
  | defaultHideWhenSourceOnTop
  | defaultClickableWhenOpaque
  | useCachedImageWhenFrozen
  | showFrozenIndicatorIcon
  | showFrozenContextMenuItem
deriving DecidableEq, Repr

namespace BoolPreference

def valueName : BoolPreference → String
  | showDialogOnStart => "ShowDialogOnProgramStart"
  | useNotificationIcon => "UseNotificationIcon"
  | minimizeToNotificationIcon => "MinimizeToNotificationIcon"
  | confirmExit => "ConfirmExitByDialog"
  | defaultMatchSourcePosition => "DefaultMatchSourcePosition"
  | defaultMatchSourceSize => "DefaultMatchSourceSize"
  | defaultLockSizeRatio => "DefaultLockSizeRatio"
  | defaultHideWhenSourceOnTop => "DefaultHideWhenSourceOnTop"
  | defaultClickableWhenOpaque => "DefaultClickableWhenOpaque"
  | useCachedImageWhenFrozen => "UseCachedImageWhenFrozen"
  | showFrozenIndicatorIcon => "ShowFrozenIndicatorIcon"
  | showFrozenContextMenuItem => "ShowFrozenContextMenuItem"

def defaultValue : BoolPreference → Bool
  | defaultMatchSourcePosition => false
  | defaultMatchSourceSize => false
  | _ => true

end BoolPreference

def opacityName : String := "DefaultOpacity"

def opacityDefault : UInt32 := 175

inductive Preference where
  | bool (which : BoolPreference)
  | defaultOpacity
deriving DecidableEq, Repr

def Preference.valueName : Preference → String
  | bool which => which.valueName
  | defaultOpacity => opacityName

structure Preferences where
  bools : BoolPreference → RegistryBool
  defaultOpacity : Registryu32
  miniViewsKey : RegistryKey

/-- Whether the key can be created or opened for writing, and the value then written. -/
structure WriteAccess where
  creates : Bool
  writes : Bool
deriving DecidableEq, Repr

namespace Preferences

def init (miniViewsKey : HKEY) : Preferences where
  bools := fun which => RegistryBool.ofKey which.defaultValue
  defaultOpacity := Registryu32.ofKey opacityDefault
  miniViewsKey := RegistryKey.init miniViewsKey

variable (prefs : Preferences) (registry : Registry)

def stored (preference : Preference) : Option UInt32 :=
  registry.value prefs.miniViewsKey.key preference.valueName

/-- The registry after a write of this preference left it `stored`. -/
def written (preference : Preference) (access : WriteAccess) (stored : Option UInt32) :
    Registry :=
  if access.creates then
    (registry.createKey prefs.miniViewsKey.key).setValue prefs.miniViewsKey.key
      preference.valueName stored
  else registry

def setBool (which : BoolPreference) (value : RegistryBool) : Preferences :=
  { prefs with bools := Function.update prefs.bools which value }

def getBool (which : BoolPreference) (readable : Bool) : RegistryBool :=
  (prefs.bools which).get (prefs.stored registry (.bool which)) readable

def getOpacity (readable : Bool) : Registryu32 :=
  prefs.defaultOpacity.get (prefs.stored registry .defaultOpacity) readable

def isFirstRun (opens : Bool) : Bool := prefs.miniViewsKey.keyExists registry opens

/-- The value returned is `confirmed` of the key. -/
def setNotFirstRun (creates : Bool) : Preferences × Registry :=
  let created := prefs.miniViewsKey.createKey registry creates
  ({ prefs with miniViewsKey := created.1 }, created.2)

def clearOrder : List Preference :=
  [.bool .showDialogOnStart, .bool .useNotificationIcon, .bool .minimizeToNotificationIcon,
    .bool .confirmExit, .defaultOpacity, .bool .defaultMatchSourcePosition,
    .bool .defaultMatchSourceSize, .bool .defaultLockSizeRatio,
    .bool .defaultHideWhenSourceOnTop, .bool .defaultClickableWhenOpaque,
    .bool .useCachedImageWhenFrozen, .bool .showFrozenIndicatorIcon,
    .bool .showFrozenContextMenuItem]

/-- `Clear` of one preference whose value the registry deletes or does not have. -/
def clearValue (preference : Preference) : Preferences × Registry :=
  (match preference with
    | .bool which => prefs.setBool which ((prefs.bools which).clear true)
    | .defaultOpacity => { prefs with defaultOpacity := prefs.defaultOpacity.clear true },
    registry.setValue prefs.miniViewsKey.key preference.valueName none)

/-- The chain stops at the first value that is not deleted. -/
def clearValues (deletes : Preference → Bool) :
    List Preference → Preferences → Registry → Preferences × Registry × Bool
  | [], prefs, registry => (prefs, registry, true)
  | preference :: rest, prefs, registry =>
      if deletes preference then
        let cleared := prefs.clearValue registry preference
        clearValues deletes rest cleared.1 cleared.2
      else (prefs, registry, false)

def clearSavedPreferences (deletes : Preference → Bool) (deletesKey : Bool) :
    Preferences × Registry × Bool :=
  let cleared := clearValues deletes clearOrder prefs registry
  if cleared.2.2 then
    let key := cleared.1.miniViewsKey.clear cleared.2.1 deletesKey
    ({ cleared.1 with miniViewsKey := key.1 }, key.2, deletesKey)
  else cleared

/-- `notFirstRun` is no field of the source: it says that `SetNotFirstRun` has succeeded and
`ClearSavedPreferences` has not since. -/
structure Session where
  prefs : Preferences
  registry : Registry
  notFirstRun : Bool

inductive Call where
  | getBool (which : BoolPreference) (readable : Bool)
  | setBool (which : BoolPreference) (newValue : Bool) (access : WriteAccess)
  | toggleBool (which : BoolPreference) (access : WriteAccess)
  | getOpacity (readable : Bool)
  | setOpacity (newValue : UInt32) (access : WriteAccess)
  | setNotFirstRun (creates : Bool)
  | clearSavedPreferences (deletes : Preference → Bool) (deletesKey : Bool)

def start (miniViewsKey : HKEY) (registry : Registry) : Session :=
  ⟨init miniViewsKey, registry, false⟩

def step (session : Session) : Call → Option Session
  | .getBool which readable =>
      some { session with
        prefs := session.prefs.setBool which
          (session.prefs.getBool session.registry which readable) }
  | .setBool which newValue access =>
      let result := RegistryBool.set newValue
        (session.prefs.stored session.registry (.bool which)) (access.creates && access.writes)
      some { session with
        prefs := session.prefs.setBool which result.1
        registry := session.prefs.written session.registry (.bool which) access result.2 }
  | .toggleBool which access =>
      let result := (session.prefs.bools which).toggle
        (session.prefs.stored session.registry (.bool which)) (access.creates && access.writes)
      some { session with
        prefs := session.prefs.setBool which result.1
        registry := session.prefs.written session.registry (.bool which) access result.2 }
  | .getOpacity readable =>
      some { session with
        prefs := { session.prefs with
          defaultOpacity := session.prefs.getOpacity session.registry readable } }
  | .setOpacity newValue access =>
      let result := Registryu32.set newValue
        (session.prefs.stored session.registry .defaultOpacity) (access.creates && access.writes)
      some { session with
        prefs := { session.prefs with defaultOpacity := result.1 }
        registry := session.prefs.written session.registry .defaultOpacity access result.2 }
  | .setNotFirstRun creates =>
      let created := session.prefs.setNotFirstRun session.registry creates
      some ⟨created.1, created.2, session.notFirstRun || created.1.miniViewsKey.confirmed⟩
  | .clearSavedPreferences deletes deletesKey =>
      let cleared := session.prefs.clearSavedPreferences session.registry deletes deletesKey
      some ⟨cleared.1, cleared.2.1, session.notFirstRun && !cleared.2.2⟩

end Preferences

end LeanMiniViews
