import Mathlib.Data.Option.Basic
import Mathlib.Logic.Function.Basic

/-!
Values kept in the registry. `stored` is what the registry holds under the name of the value.
Whether the key can be opened and the value read or written is decided at each access.
-/

namespace LeanMiniViews

/-- `cachedValue` stands here for both subclasses; each gives its type. -/
structure RegistryValue (α : Type) where
  isAssigned : Bool
  cachedValue : α
  deriving DecidableEq, Repr

namespace RegistryValue

def getDword (stored : Option UInt32) (readable : Bool) : Option UInt32 :=
  if readable then stored else none

/-- The success of the write and what the registry holds after it. -/
def createOrSetDword (stored : Option UInt32) (value : UInt32) (writable : Bool) :
    Bool × Option UInt32 :=
  if writable then (true, some value) else (false, stored)

def getBool (stored : Option UInt32) (readable : Bool) : Option Bool :=
  (getDword stored readable).map fun storedValue => storedValue != 0

def createOrSetBool (stored : Option UInt32) (value : Bool) (writable : Bool) :
    Bool × Option UInt32 :=
  createOrSetDword stored (if value then 1 else 0) writable

variable {α : Type}

def init (defaultValue : α) : RegistryValue α := ⟨false, defaultValue⟩

/-- `Get` of both subclasses, given what the registry would answer. The value returned is the
`cachedValue` of the result. -/
def fetch (value : RegistryValue α) (read : Option α) : RegistryValue α :=
  if value.isAssigned then value
  else match read with
    | some regValue => ⟨true, regValue⟩
    | none => value

/-- The writes of both subclasses; the value returned is `isAssigned` of the result. -/
def assign (newValue : α) (written : Bool) : RegistryValue α := ⟨written, newValue⟩

/-- `Clear` once the registry has answered; the value returned is that answer. -/
def clear (value : RegistryValue α) (deleted : Bool) : RegistryValue α :=
  if deleted then { value with isAssigned := false } else value

theorem fetch_cachedValue_iff (value : RegistryValue α) (read : Option α) (expected : α)
    (held : value.cachedValue = expected) :
    (value.fetch read).cachedValue = expected ↔
      (value.isAssigned = false → ∀ regValue ∈ read, regValue = expected) := by
  unfold fetch
  by_cases assigned : value.isAssigned = true
  · simp [assigned, held]
  · cases read with
    | none => simp [assigned, held]
    | some regValue => simp [assigned]

end RegistryValue

abbrev Registryu32 := RegistryValue UInt32

namespace Registryu32

/-- The constructor that takes a key and its sub key declares the default as a `bool`. -/
def ofSubKey (defaultValue : Bool) : Registryu32 :=
  RegistryValue.init (if defaultValue then 1 else 0)

def ofKey (defaultValue : UInt32) : Registryu32 := RegistryValue.init defaultValue

def get (value : Registryu32) (stored : Option UInt32) (readable : Bool) : Registryu32 :=
  value.fetch (RegistryValue.getDword stored readable)

def set (newValue : UInt32) (stored : Option UInt32) (writable : Bool) :
    Registryu32 × Option UInt32 :=
  let written := RegistryValue.createOrSetDword stored newValue writable
  (RegistryValue.assign newValue written.1, written.2)

end Registryu32

abbrev RegistryBool := RegistryValue Bool

namespace RegistryBool

def ofKey (defaultValue : Bool) : RegistryBool := RegistryValue.init defaultValue

def get (value : RegistryBool) (stored : Option UInt32) (readable : Bool) : RegistryBool :=
  value.fetch (RegistryValue.getBool stored readable)

def set (newValue : Bool) (stored : Option UInt32) (writable : Bool) :
    RegistryBool × Option UInt32 :=
  let written := RegistryValue.createOrSetBool stored newValue writable
  (RegistryValue.assign newValue written.1, written.2)

def toggle (value : RegistryBool) (stored : Option UInt32) (writable : Bool) :
    RegistryBool × Option UInt32 :=
  let written := RegistryValue.createOrSetBool stored (!value.cachedValue) writable
  (RegistryValue.assign (!value.cachedValue) written.1, written.2)

end RegistryBool

abbrev HKEY := Nat

def hkeyCurrentUser : HKEY := 0x80000001

/-- What each predefined key has under one sub key: nothing, or a key with these values. -/
abbrev Registry := HKEY → Option (String → Option UInt32)

namespace Registry

def value (registry : Registry) (key : HKEY) (valueName : String) : Option UInt32 :=
  (registry key).bind fun values => values valueName

def createKey (registry : Registry) (key : HKEY) : Registry :=
  Function.update registry key (some ((registry key).getD fun _ => none))

def setValue (registry : Registry) (key : HKEY) (valueName : String) (stored : Option UInt32) :
    Registry :=
  Function.update registry key
    ((registry key).map fun values => Function.update values valueName stored)

def deleteKey (registry : Registry) (key : HKEY) : Registry := Function.update registry key none

end Registry

/-- `confirmed` is the field `keyExists`. -/
structure RegistryKey where
  confirmed : Bool
  key : HKEY
deriving DecidableEq, Repr

namespace RegistryKey

def init (key : HKEY) : RegistryKey := ⟨false, key⟩

/-- The key is looked for, and deleted, under the current user, whatever `key` is. -/
def keyExists (registryKey : RegistryKey) (registry : Registry) (opens : Bool) : Bool :=
  registryKey.confirmed || ((registry hkeyCurrentUser).isSome && opens)

/-- The value returned is `confirmed` of the result. -/
def createKey (registryKey : RegistryKey) (registry : Registry) (creates : Bool) :
    RegistryKey × Registry :=
  if creates then ({ registryKey with confirmed := true }, registry.createKey registryKey.key)
  else (registryKey, registry)

/-- The value returned is the answer of the registry. -/
def clear (registryKey : RegistryKey) (registry : Registry) (deleted : Bool) :
    RegistryKey × Registry :=
  if deleted then ({ registryKey with confirmed := false }, registry.deleteKey hkeyCurrentUser)
  else (registryKey, registry)

end RegistryKey

end LeanMiniViews
