import LeanMiniViews.ClipSession

/-!
Attempts to create a window, one after the other. The name of the class is kept between
registration and creation, and tells that an attempt is under way.
-/

namespace LeanMiniViews

namespace ClassWindow

/-- The registered classes are those of all objects. -/
structure Creating where
  window : ClassWindow
  registeredClasses : List String
deriving DecidableEq, Repr

inductive CreationEvent where
  | attempt (className : String) (creation : Creation)
  | destroyThis
  | registeredElsewhere (className : String)

namespace Creating

def fresh (registeredClasses : List String) : Creating := ⟨ClassWindow.init, registeredClasses⟩

def attempt (state : Creating) (className : String) (creation : Creation) : Creating × Bool :=
  let created := state.window.createThis state.registeredClasses className creation
  (⟨created.1, created.2.1⟩, created.2.2)

def step (state : Creating) : CreationEvent → Option Creating
  | .attempt className creation => some (state.attempt className creation).1
  | .destroyThis => some { state with window := state.window.destroyThis }
  | .registeredElsewhere className =>
      some { state with registeredClasses := state.registeredClasses ++ [className] }

def Idle (state : Creating) : Prop :=
  state.window.windowsItemHandle = 0 ∧ state.window.windowClassName = ""

instance (state : Creating) : Decidable state.Idle := inferInstanceAs (Decidable (_ ∧ _))

def CanRegister (state : Creating) (className : String) (creation : Creation) : Prop :=
  className ∈ state.registeredClasses ∨ creation.registers = true

instance (state : Creating) (className : String) (creation : Creation) :
    Decidable (state.CanRegister className creation) := inferInstanceAs (Decidable (_ ∨ _))

/-- Without a window an attempt starts afresh, and fails only if the system refuses it. -/
structure Retryable (state : Creating) : Prop where
  cleared : state.window.windowsItemHandle = 0 → state.window.windowClassName = ""
  refusedOnly : state.window.windowsItemHandle = 0 → ∀ className creation, className ≠ "" →
    (state.attempt className creation).2 = false →
      ¬ state.CanRegister className creation ∨ creation.handle = 0

/-- The class is there and the window is refused. -/
def LeavesName (state : Creating) : CreationEvent → Prop
  | .attempt className creation =>
      state.Idle ∧ className ≠ "" ∧ state.CanRegister className creation ∧ creation.handle = 0
  | .destroyThis => False
  | .registeredElsewhere _ => False

theorem attempt_busy {state : Creating} (busy : ¬ state.Idle) (className : String)
    (creation : Creation) : state.attempt className creation = (state, false) := by
  simp only [attempt, createThis_busy busy]

theorem attempt_idle {state : Creating} (idle : state.Idle) (className : String)
    (creation : Creation) :
    (state.attempt className creation).1.window =
        (if state.CanRegister className creation ∧ className ≠ "" then
          if creation.handle ≠ 0 then ⟨creation.handle, ""⟩ else ⟨0, className⟩
        else state.window) ∧
      (state.attempt className creation).2 = decide
        (state.CanRegister className creation ∧ className ≠ "" ∧ creation.handle ≠ 0) := by
  obtain ⟨noHandle, noName⟩ := idle
  have empty : state.window = ⟨0, ""⟩ := by rw [← noHandle, ← noName]
  rcases registerWindowClass_idle noHandle noName state.registeredClasses className
    creation.registers with ⟨allowed, item, registered⟩ | ⟨refused, same⟩
  · have can : state.CanRegister className creation := allowed
    by_cases named : className = ""
    · subst named
      simpa [attempt, createThis, registered, item, createClassWindow] using empty.symm
    · by_cases created : creation.handle = 0
      · simp [attempt, createThis, registered, item, createClassWindow, named, created, can]
      · simp [attempt, createThis, registered, item, createClassWindow, named, created, can]
  · have cannot : ¬ state.CanRegister className creation := refused
    simp [attempt, createThis, same, cannot]

theorem retryable_of_cleared {state : Creating}
    (cleared : state.window.windowsItemHandle = 0 → state.window.windowClassName = "") :
    state.Retryable := by
  constructor
  · exact cleared
  · intro noHandle className creation named failed
    rw [(attempt_idle ⟨noHandle, cleared noHandle⟩ className creation).2] at failed
    by_contra granted
    rw [not_or, not_not] at granted
    exact of_decide_eq_false failed ⟨granted.1, named, granted.2⟩

theorem retryable_step_iff {state : Creating} (retryable : state.Retryable)
    (event : CreationEvent) :
    Runs.After step (fun _ _ next => next.Retryable) state event ↔ ¬ state.LeavesName event := by
  refine Runs.after_iff (by cases event <;> simp [step]) ?_
  intro next stepped
  cases event with
  | attempt className creation =>
      obtain rfl := Option.some.inj stepped
      by_cases idle : state.Idle
      · have window := (attempt_idle idle className creation).1
        constructor
        · rintro kept ⟨-, named, can, refused⟩
          rw [if_pos ⟨can, named⟩, if_neg (not_not.mpr refused)] at window
          have name := kept.cleared (by rw [window])
          rw [window] at name
          exact named name
        · intro leaves
          apply retryable_of_cleared
          rw [window]
          split
          · rename_i registered
            split
            · exact fun _ => rfl
            · rename_i refused
              exact absurd ⟨idle, registered.2, registered.1, not_not.mp refused⟩ leaves
          · exact retryable.cleared
      · rw [attempt_busy idle]
        exact iff_of_true retryable fun leaves => idle leaves.1
  | destroyThis =>
      obtain rfl := Option.some.inj stepped
      exact iff_of_true (retryable_of_cleared fun _ => rfl) id
  | registeredElsewhere className =>
      obtain rfl := Option.some.inj stepped
      exact iff_of_true (retryable_of_cleared retryable.cleared) id

/-- An object can be tried again after every step exactly if no attempt gets its class and is
refused its window. -/
theorem retryable_along_iff (registeredClasses : List String) (events : List CreationEvent) :
    Runs.Along step (Runs.After step fun _ _ next => next.Retryable) (fresh registeredClasses)
        events ↔
      Runs.Along step (fun state event => ¬ state.LeavesName event) (fresh registeredClasses)
        events := by
  refine Runs.along_iff_of_exact (fun _ event retryable => retryable_step_iff retryable event) ?_
    (retryable_of_cleared fun _ => rfl)
  intro state event retryable leaves next stepped
  exact (retryable_step_iff retryable event).mpr leaves next stepped

/-- The selection window is refused once. -/
theorem retryable_refused :
    ¬ ∀ (registeredClasses : List String) (events : List CreationEvent),
      Runs.Along step (Runs.After step fun _ _ next => next.Retryable) (fresh registeredClasses)
        events := by
  intro claim
  have after := (claim [] [.attempt "ClipSelWindow" ⟨true, 0⟩]).1
  have name := (after _ rfl).cleared rfl
  exact absurd name (by decide)

end Creating

end ClassWindow

end LeanMiniViews
