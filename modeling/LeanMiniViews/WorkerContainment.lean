import LeanMiniViews.Containment
import LeanMiniViews.LockDiscipline

/-!
The exceptions that leave `Commander::Run`. Two statements of the loop can throw: the execution
of an entry and the unlock after the wait.
-/

namespace LeanMiniViews

namespace Commander

variable {World Body : Type}

/-- What the worker executes next throws nothing. -/
def Contained (program : Program World Body) (commander : Commander World Body) :
    Event Body → Prop
  | .worker _ =>
      match commander.stage with
      | .executing entry =>
          ∀ work ∈ commander.workOf entry.item, commander.worker.Contained program work
      | _ => True
  | _ => True

/-- The worker is asleep or gone, waits for `commandLocker`, or is said to wake a call that it
cannot wake. -/
def Waits (commander : Commander World Body) (wakes : Option Nat) : Prop :=
  match commander.stage with
  | .top => commander.commandLocked = true
  | .relocking => commander.commandLocked = true
  | .blocked => True
  | .stopped => True
  | .notifying _ => commander.notifyClient wakes = none
  | _ => False

variable {program : Program World Body}

/-- Where no exception leaves it, the loop goes on as soon as it need not wait. -/
theorem workerStep_eq_none_iff (commander : Commander World Body) (wakes : Option Nat) :
    commander.workerStep program wakes = none ↔
      commander.escapes program (.worker wakes) = true ∨ commander.Waits wakes := by
  unfold workerStep escapes Waits
  cases commander.stage with
  | checking => cases commander.todoBuffer <;> simp
  | popping => cases commander.todoBuffer <;> simp
  | finished entry => cases synchronous : entry.item.isSynchronous <;> simp [synchronous]
  | leavingWait => cases commander.hasCommandsLocked <;> simp
  | _ => simp

theorem execute_isSome_iff (commander : Commander World Body) (entry : Entry Body) :
    (commander.execute program entry).isSome = true ↔
      ∀ work ∈ commander.workOf entry.item, commander.worker.Contained program work := by
  unfold execute
  cases commander.workOf entry.item with
  | none => simp
  | some work =>
      simp only [Option.isSome_map, Option.mem_def, Option.some.injEq, forall_eq']
      exact Worker.perform_isSome_iff commander.worker work

theorem not_escapes_iff (commander : Commander World Body) (event : Event Body) :
    commander.escapes program event = false ↔
      commander.Contained program event ∧ commander.UnlocksOwned event := by
  cases event with
  | worker wakes =>
      cases stage : commander.stage with
      | executing entry =>
          simp only [escapes, Contained, UnlocksOwned, leavesWait, stage, WorkerStage.isLeaving,
            Option.isNone_eq_false_iff, reduceCtorEq, false_implies, and_true]
          exact commander.execute_isSome_iff entry
      | leavingWait =>
          simp [escapes, Contained, UnlocksOwned, leavesWait, stage, WorkerStage.isLeaving]
      | _ => simp [escapes, Contained, UnlocksOwned, leavesWait, stage, WorkerStage.isLeaving]
  | _ => simp [escapes, Contained, UnlocksOwned, leavesWait]

/-- No exception leaves the loop in exactly the runs that leave the wait at most once and
execute nothing that throws. -/
theorem run_contained_iff (program : Program World Body) (world : World)
    (events : List (Event Body)) :
    Runs.Along (step program) (fun commander event => commander.escapes program event = false)
        (start world) events ↔
      Runs.Along (step program) (fun commander event => commander.Contained program event)
        (start world) events ∧
      Runs.count (step program) leavesWait (start world) events ≤ 1 := by
  rw [Runs.along_congr not_escapes_iff, Runs.along_and_iff, unlocksOwned_iff]

def undoThrows : Program Nat Unit where
  doBody _ world := (none, world + 1)
  undoBody _ world := (some .exception, world)
  errorHandlers _ := none
  commandListeners _ := []

/-- Nothing catches what the `Undo` of a single command throws: a command is done, then the
undo of its type is asked for. -/
theorem undo_escapes_undoThrows :
    ¬ ∀ (World Body : Type) (program : Program World Body) (world : World)
      (events : List (Event Body)),
      Runs.Along (step program)
        (fun commander event => commander.escapes program event = false) (start world)
        events := by
  intro claim
  have run := claim Nat Unit undoThrows 0
    [.arrive (.doOne (.ofBody () false 4 7)), .client 0, .client 0, .client 0, .client 0,
      .arrive (.undo 7), .client 1, .client 1, .client 1, .client 1,
      .worker none, .worker none, .worker none, .worker none, .worker none,
      .worker none, .worker none, .worker none, .worker none]
  revert run
  decide

end Commander

end LeanMiniViews
