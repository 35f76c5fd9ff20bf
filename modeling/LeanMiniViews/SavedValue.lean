import LeanMiniViews.RegistryCore
import LeanMiniViews.Runs

/-!
A saved value against a variable. A write that does not reach the registry leaves `isAssigned`
clear, and the next `Get` that can read the registry replaces the value by the stored one.
-/

namespace LeanMiniViews

/-- A value, its place in the registry, and the variable it stands for: what the latest write
gave, if there was one. -/
structure Saved (α : Type) where
  value : RegistryValue α
  stored : Option UInt32
  latest : Option α

namespace Saved

variable {α : Type}

def Reads (saved : Saved α) (read : Option α) : Prop :=
  saved.value.isAssigned = false → ∀ written ∈ saved.latest, ∀ regValue ∈ read, regValue = written

def Holds (saved : Saved α) : Prop := ∀ written ∈ saved.latest, saved.value.cachedValue = written

instance [DecidableEq α] (saved : Saved α) : Decidable saved.Holds :=
  inferInstanceAs (Decidable (∀ written ∈ saved.latest, saved.value.cachedValue = written))

theorem fetch_holds_iff (saved : Saved α) (read : Option α) (holds : saved.Holds) :
    Holds { saved with value := saved.value.fetch read } ↔ saved.Reads read := by
  unfold Holds Reads
  cases latest : saved.latest with
  | none => simp
  | some written =>
      have held : saved.value.cachedValue = written := holds written latest
      have exact_read := RegistryValue.fetch_cachedValue_iff saved.value read written held
      simpa using exact_read

end Saved

namespace Registryu32

inductive Call where
  | get (readable : Bool)
  | set (newValue : UInt32) (writable : Bool)

def step (saved : Saved UInt32) : Call → Option (Saved UInt32)
  | .get readable => some { saved with value := get saved.value saved.stored readable }
  | .set newValue writable =>
      let (value, stored) := set newValue saved.stored writable
      some ⟨value, stored, some newValue⟩

def Returns (_ : Saved UInt32) : Call → Saved UInt32 → Prop
  | .get _, next => next.Holds
  | .set _ _, _ => True

/-- No `Get` replaces the latest write by another value of the registry. -/
def KeepsWrite (saved : Saved UInt32) : Call → Prop
  | .get readable => saved.Reads (RegistryValue.getDword saved.stored readable)
  | .set _ _ => True

theorem returns_iff (saved : Saved UInt32) (call : Call) (holds : saved.Holds) :
    Runs.After step Returns saved call ↔ KeepsWrite saved call := by
  apply Runs.after_iff
  · intro stuck
    cases call <;> simp [step] at stuck
  · intro next stepped
    cases call with
    | get readable =>
        obtain rfl : _ = next := Option.some.inj stepped
        exact saved.fetch_holds_iff _ holds
    | set newValue writable => exact iff_of_true trivial trivial

theorem step_holds (saved : Saved UInt32) (call : Call) (holds : saved.Holds)
    (keeps : KeepsWrite saved call) : ∀ next ∈ step saved call, next.Holds := by
  intro next stepped
  cases call with
  | get readable => exact (returns_iff saved (.get readable) holds).mpr keeps next stepped
  | set newValue writable =>
      obtain rfl : _ = next := Option.some.inj stepped
      intro written latest
      exact Option.some.inj latest

theorem along_returns_iff (value : Registryu32) (stored : Option UInt32) (calls : List Call) :
    Runs.Along step (Runs.After step Returns) ⟨value, stored, none⟩ calls ↔
      Runs.Along step KeepsWrite ⟨value, stored, none⟩ calls := by
  have initial : Saved.Holds ⟨value, stored, none⟩ := by simp [Saved.Holds]
  apply Runs.along_iff_of_exact _ _ initial
  · intro saved call holds
    exact returns_iff saved call holds
  · intro saved call holds keeps
    exact step_holds saved call holds keeps

end Registryu32

namespace RegistryBool

inductive Call where
  | get (readable : Bool)
  | set (newValue : Bool) (writable : Bool)
  | toggle (writable : Bool)

/-- `Toggle` gives the negation of what the variable holds, which before the first write is what
the object holds. -/
def step (saved : Saved Bool) : Call → Option (Saved Bool)
  | .get readable => some { saved with value := get saved.value saved.stored readable }
  | .set newValue writable =>
      let (value, stored) := set newValue saved.stored writable
      some ⟨value, stored, some newValue⟩
  | .toggle writable =>
      let (value, stored) := toggle saved.value saved.stored writable
      some ⟨value, stored, some !(saved.latest.getD saved.value.cachedValue)⟩

def Returns (_ : Saved Bool) : Call → Saved Bool → Prop
  | .get _, next => next.Holds
  | .set _ _, _ => True
  | .toggle _, _ => True

instance (saved : Saved Bool) : ∀ call next, Decidable (Returns saved call next)
  | .get _, next => inferInstanceAs (Decidable next.Holds)
  | .set _ _, _ => isTrue trivial
  | .toggle _, _ => isTrue trivial

def KeepsWrite (saved : Saved Bool) : Call → Prop
  | .get readable => saved.Reads (RegistryValue.getBool saved.stored readable)
  | .set _ _ => True
  | .toggle _ => True

theorem returns_iff (saved : Saved Bool) (call : Call) (holds : saved.Holds) :
    Runs.After step Returns saved call ↔ KeepsWrite saved call := by
  apply Runs.after_iff
  · intro stuck
    cases call <;> simp [step] at stuck
  · intro next stepped
    cases call with
    | get readable =>
        obtain rfl : _ = next := Option.some.inj stepped
        exact saved.fetch_holds_iff _ holds
    | set newValue writable => exact iff_of_true trivial trivial
    | toggle writable => exact iff_of_true trivial trivial

theorem latest_eq_cachedValue (saved : Saved Bool) (holds : saved.Holds) :
    saved.latest.getD saved.value.cachedValue = saved.value.cachedValue := by
  cases latest : saved.latest with
  | none => rfl
  | some written => exact (holds written latest).symm

theorem step_holds (saved : Saved Bool) (call : Call) (holds : saved.Holds)
    (keeps : KeepsWrite saved call) : ∀ next ∈ step saved call, next.Holds := by
  intro next stepped
  cases call with
  | get readable => exact (returns_iff saved (.get readable) holds).mpr keeps next stepped
  | set newValue writable =>
      obtain rfl : _ = next := Option.some.inj stepped
      intro written latest
      exact Option.some.inj latest
  | toggle writable =>
      obtain rfl : _ = next := Option.some.inj stepped
      intro written latest
      rw [latest_eq_cachedValue saved holds] at latest
      exact Option.some.inj latest

theorem along_returns_iff (value : RegistryBool) (stored : Option UInt32) (calls : List Call) :
    Runs.Along step (Runs.After step Returns) ⟨value, stored, none⟩ calls ↔
      Runs.Along step KeepsWrite ⟨value, stored, none⟩ calls := by
  have initial : Saved.Holds ⟨value, stored, none⟩ := by simp [Saved.Holds]
  apply Runs.along_iff_of_exact _ _ initial
  · intro saved call holds
    exact returns_iff saved call holds
  · intro saved call holds keeps
    exact step_holds saved call holds keeps

end RegistryBool

namespace RegistryValue

/-- Every `Get` of a run returns the latest write exactly if none replaces a write that failed. -/
theorem get_returns_latest_iff (stored : Option UInt32)
    (number : Registryu32) (numberCalls : List Registryu32.Call)
    (flag : RegistryBool) (flagCalls : List RegistryBool.Call) :
    (Runs.Along Registryu32.step (Runs.After Registryu32.step Registryu32.Returns)
        ⟨number, stored, none⟩ numberCalls ↔
      Runs.Along Registryu32.step Registryu32.KeepsWrite ⟨number, stored, none⟩ numberCalls) ∧
    (Runs.Along RegistryBool.step (Runs.After RegistryBool.step RegistryBool.Returns)
        ⟨flag, stored, none⟩ flagCalls ↔
      Runs.Along RegistryBool.step RegistryBool.KeepsWrite ⟨flag, stored, none⟩ flagCalls) := by
  constructor
  · exact Registryu32.along_returns_iff number stored numberCalls
  · exact RegistryBool.along_returns_iff flag stored flagCalls

/-- The value stored earlier comes back after a `Set` that could not be written. -/
theorem get_returns_stored_afterFailedSet :
    ¬ ((∀ (value : Registryu32) (stored : Option UInt32) (calls : List Registryu32.Call),
      Runs.Along Registryu32.step (Runs.After Registryu32.step Registryu32.Returns)
        ⟨value, stored, none⟩ calls) ∧
    ∀ (value : RegistryBool) (stored : Option UInt32) (calls : List RegistryBool.Call),
      Runs.Along RegistryBool.step (Runs.After RegistryBool.step RegistryBool.Returns)
        ⟨value, stored, none⟩ calls) := by
  intro claim
  have returns := claim.2 (RegistryBool.ofKey false) (some 1) [.set false false, .get true]
  revert returns
  decide

end RegistryValue

end LeanMiniViews
