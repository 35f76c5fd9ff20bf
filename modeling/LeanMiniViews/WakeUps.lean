import LeanMiniViews.Runs
import LeanMiniViews.ThreadsSteps

/-!
Lost wake-ups. Neither notification is sent with the mutex of the waiter held, so it can fall
between a predicate that was false and the block; and `notify_one` wakes one call where several
may wait for the same zero.
-/

namespace LeanMiniViews

def WorkerStage.isNotifying {Body : Type} : WorkerStage Body → Bool
  | notifying _ => true
  | _ => false

namespace Commander

variable {World Body : Type}

def NotifyPending (commander : Commander World Body) : Prop :=
  ∃ call ∈ commander.calls, call.stage = .pushed

instance (commander : Commander World Body) : Decidable commander.NotifyPending :=
  inferInstanceAs (Decidable (∃ call ∈ commander.calls, call.stage = .pushed))

/-- Nobody sleeps over what it waits for, unless a notification is about to come. -/
def AllHeard (commander : Commander World Body) : Prop :=
  (commander.stage.isBlocked = true → commander.todoBuffer.isEmpty = false →
    commander.NotifyPending) ∧
  (commander.numSynchronousCommands = 0 → commander.stage.isNotifying = false →
    ∀ call ∈ commander.calls, call.stage ≠ .blocked)

instance (commander : Commander World Body) : Decidable commander.AllHeard :=
  inferInstanceAs (Decidable (_ ∧ _))

def Drowsy (call : Call Body) : Prop := call.stage = .falling ∨ call.stage = .blocked

instance (call : Call Body) : Decidable (Drowsy call) :=
  inferInstanceAs (Decidable (call.stage = .falling ∨ call.stage = .blocked))

/-- The notification of the event finds whom it is for: with a command queued the worker is not
between its predicate and the block, and with the counter at zero neither is a call, nor is a
second call blocked. And no push wraps the counter to the zero that calls wait for. -/
def Finds (commander : Commander World Body) : Event Body → Prop
  | .client index => ∀ call ∈ commander.calls[index]?,
      (call.stage = .pushed → commander.todoBuffer.isEmpty = false →
        commander.stage.isFalling = false) ∧
      (call.stage = .locked →
        commander.numSynchronousCommands + UInt32.ofNat call.request.raises = 0 →
        commander.numSynchronousCommands ≠ 0 → commander.stage.isNotifying = false →
          ∀ other ∈ commander.calls, ¬ Drowsy other)
  | .worker _ => commander.stage.isNotifying = true → commander.numSynchronousCommands = 0 →
      (∀ call ∈ commander.calls, call.stage ≠ .falling) ∧
        commander.calls.countP (·.stage = .blocked) ≤ 1
  | _ => True

instance (commander : Commander World Body) :
    ∀ event : Event Body, Decidable (commander.Finds event)
  | .client _ => inferInstanceAs (Decidable (∀ call ∈ _, _))
  | .worker _ => inferInstanceAs (Decidable (_ → _))
  | .arrive _ => isTrue trivial
  | .wakeWorker => isTrue trivial
  | .wakeClient _ => isTrue trivial

structure Alert (commander : Commander World Body) : Prop where
  flag : commander.hasCommandsToExecute = false → commander.todoBuffer = []
  pending : commander.stage.isFalling = true ∨ commander.stage.isBlocked = true →
    commander.todoBuffer.isEmpty = false → commander.NotifyPending
  calls : commander.numSynchronousCommands = 0 → commander.stage.isNotifying = false →
    ∀ call ∈ commander.calls, ¬ Drowsy call

theorem start_alert (world : World) : (start world : Commander World Body).Alert :=
  ⟨fun _ => rfl, by simp [start, WorkerStage.isFalling, WorkerStage.isBlocked],
    by simp [start]⟩

variable {program : Program World Body} {commander next : Commander World Body}

theorem Alert.allHeard (alert : commander.Alert) : commander.AllHeard := by
  refine ⟨?_, ?_⟩
  · exact fun blocked queued => alert.pending (Or.inr blocked) queued
  · intro zero awake call member blocked
    exact alert.calls zero awake call member (Or.inr blocked)

/-! The calls. -/

theorem pending_set {index : Nat} {call new : Call Body}
    (found : commander.calls[index]? = some call) (other : call.stage ≠ .pushed)
    (pending : commander.NotifyPending) :
    ∃ call ∈ commander.calls.set index new, call.stage = .pushed := by
  obtain ⟨pusher, member, pushed⟩ := pending
  obtain ⟨place, there⟩ := List.mem_iff_getElem?.mp member
  have different : index ≠ place := by
    rintro rfl
    rw [found] at there
    exact other (Option.some.inj there ▸ pushed)
  refine ⟨pusher, ?_, pushed⟩
  rw [List.mem_iff_getElem?]
  exact ⟨place, by rw [List.getElem?_set_ne different, there]⟩

theorem Alert.push (alert : commander.Alert) {index : Nat} {call : Call Body}
    (found : commander.calls[index]? = some call)
    (wraps : commander.numSynchronousCommands + UInt32.ofNat call.request.raises = 0 →
      commander.numSynchronousCommands ≠ 0 → commander.stage.isNotifying = false →
        ∀ other ∈ commander.calls, ¬ Drowsy other) :
    (commander.push index call).Alert := by
  refine ⟨?_, ?_, ?_⟩
  · intro clear
    cases clear
  · intro _ _
    have bound : index < commander.calls.length := (List.getElem?_eq_some_iff.mp found).1
    exact ⟨_, List.mem_set bound _, rfl⟩
  · intro zero awake
    apply forall_set
    · rintro (falling | blocked)
      · cases falling
      · cases blocked
    · by_cases before : commander.numSynchronousCommands = 0
      · exact alert.calls before awake
      · exact wraps zero before awake

theorem Alert.moveCall (alert : commander.Alert) {index : Nat} {call : Call Body}
    {stage : CallStage} (found : commander.calls[index]? = some call)
    (other : call.stage ≠ .pushed)
    (calls : next.calls = commander.calls.set index { call with stage := stage })
    (flag : next.hasCommandsToExecute = commander.hasCommandsToExecute)
    (queue : next.todoBuffer = commander.todoBuffer)
    (counter : next.numSynchronousCommands = commander.numSynchronousCommands)
    (worker : next.stage = commander.stage)
    (awake : commander.numSynchronousCommands = 0 → Drowsy { call with stage := stage } →
      Drowsy call) : next.Alert := by
  refine ⟨?_, ?_, ?_⟩
  · rw [flag, queue]
    exact alert.flag
  · rw [worker, queue, NotifyPending, calls]
    exact fun resting queued => pending_set found other (alert.pending resting queued)
  · rw [worker, counter, calls]
    intro zero quiet
    apply forall_set
    · exact fun drowsy => alert.calls zero quiet call (List.mem_of_getElem? found)
        (awake zero drowsy)
    · exact alert.calls zero quiet

theorem Alert.moveWorker (alert : commander.Alert) {stage : WorkerStage Body}
    (before : commander.stage.isNotifying = false) (calls : next.calls = commander.calls)
    (flag : next.hasCommandsToExecute = false → next.todoBuffer = [])
    (counter : next.numSynchronousCommands = commander.numSynchronousCommands)
    (worker : next.stage = stage) (up : stage.isFalling = false) (risen : stage.isBlocked = false) :
    next.Alert := by
  refine ⟨flag, ?_, ?_⟩
  · rw [worker, up, risen]
    simp
  · rw [counter, calls]
    exact fun zero _ => alert.calls zero before

theorem Alert.notify (alert : commander.Alert) {index : Nat} {call : Call Body}
    (awake : commander.todoBuffer.isEmpty = false → commander.stage.isFalling = false) :
    (commander.notifyWorker.restage index call .notified).Alert := by
  have quiet : ¬ Drowsy { call with stage := .notified } := by
    rintro (falling | blocked)
    · cases falling
    · cases blocked
  rcases commander.notifyWorker_cases with ⟨blocked, woken⟩ | ⟨risen, same⟩
  · rw [woken]
    refine ⟨alert.flag, ?_, ?_⟩
    · simp [restage, setCall, WorkerStage.isFalling, WorkerStage.isBlocked]
    · intro zero _
      apply forall_set
      · exact quiet
      · exact alert.calls zero (by rw [blocked]; rfl)
  · rw [same]
    refine ⟨alert.flag, ?_, ?_⟩
    · rintro (falling | blocked) queued
      · exact absurd falling (by simp [restage, setCall, awake queued])
      · exact absurd blocked (by simp [restage, setCall, risen])
    · intro zero busy
      apply forall_set
      · exact quiet
      · exact alert.calls zero busy

theorem alert_clientMove (alert : commander.Alert) {index : Nat} {call : Call Body}
    (found : commander.calls[index]? = some call) (finds : commander.Finds (.client index))
    (move : commander.ClientMove index call next) : next.Alert := by
  obtain ⟨notifies, pushes⟩ := finds call found
  cases move with
  | push locked => exact alert.push found (pushes locked)
  | notify pushed => exact alert.notify (notifies pushed)
  | pass stage commandLocked synchronousLocked before passes =>
      refine alert.moveCall found before rfl rfl rfl rfl rfl ?_
      rintro zero (falling | blocked)
      · exact absurd zero (passes.falling falling)
      · exact Or.inl (passes.blocked blocked)

/-! The worker. -/

theorem notifying_of_heldEntry {stage : WorkerStage Body} (none : stage.heldEntry = none) :
    stage.isNotifying = false := by
  cases stage with
  | notifying => cases none
  | _ => rfl

theorem awake_after_notify {wakes : Option Nat} {told : Commander World Body}
    (notified : commander.notifyClient wakes = some told)
    (awake : ∀ call ∈ commander.calls, call.stage ≠ .falling)
    (one : commander.calls.countP (·.stage = .blocked) ≤ 1) :
    ∀ call ∈ told.calls, ¬ Drowsy call := by
  rcases notifyClient_cases notified with ⟨rfl, none⟩ | ⟨index, call, found, blocked, rfl⟩
  · rintro call member (falling | blocked)
    · exact awake call member falling
    · exact none call member blocked
  · obtain ⟨bound, there⟩ := List.getElem?_eq_some_iff.mp found
    have nobody : (commander.calls.set index { call with stage := .woken }).countP
        (·.stage = .blocked) = 0 := by
      rw [List.countP_set bound, there]
      simp only [blocked, decide_true, ↓reduceIte, reduceCtorEq, decide_false,
        Bool.false_eq_true]
      omega
    have up : ∀ other ∈ commander.calls.set index { call with stage := .woken },
        other.stage ≠ .falling := by
      apply forall_set
      · simp
      · exact awake
    rintro other member (falling | asleep)
    · exact up other member falling
    · have risen := List.countP_eq_zero.mp nobody other member
      exact risen (by simpa using asleep)

theorem alert_workerMove (alert : commander.Alert) (move : commander.WorkerMove program next)
    (finds : commander.stage.isNotifying = true → commander.numSynchronousCommands = 0 →
      (∀ call ∈ commander.calls, call.stage ≠ .falling) ∧
        commander.calls.countP (·.stage = .blocked) ≤ 1) : next.Alert := by
  cases move with
  | rest checking empty =>
      refine alert.moveWorker ?_ rfl (fun _ => empty) rfl rfl rfl rfl
      rw [checking]
      rfl
  | pop entry later popping queue =>
      refine alert.moveWorker ?_ rfl ?_ rfl rfl rfl rfl
      · rw [popping]
        rfl
      · intro clear
        have empty := alert.flag clear
        rw [queue] at empty
        cases empty
  | execute entry next executing executed =>
      obtain ⟨worker, rfl⟩ := execute_eq executed
      refine alert.moveWorker ?_ rfl alert.flag rfl rfl rfl rfl
      rw [executing]
      rfl
  | countOff entry finished synchronous =>
      refine ⟨alert.flag, ?_, ?_⟩
      · simp [WorkerStage.isFalling, WorkerStage.isBlocked]
      · intro _ awake
        cases awake
  | finish entry finished asynchronous =>
      obtain ⟨stage, same, -, up, risen⟩ := commander.loop_stage entry
      rw [same]
      refine alert.moveWorker ?_ rfl alert.flag rfl rfl up risen
      rw [finished]
      rfl
  | notify entry wakes told notifying notified =>
      have busy : commander.stage.isNotifying = true := by
        rw [notifying]
        rfl
      have heard (zero : commander.numSynchronousCommands = 0) :
          ∀ call ∈ told.calls, ¬ Drowsy call := by
        obtain ⟨awake, one⟩ := finds busy zero
        exact awake_after_notify notified awake one
      obtain ⟨stage, same, -, up, risen⟩ := told.loop_stage entry
      rw [same]
      obtain ⟨calls, rfl⟩ := notifyClient_calls notified
      refine ⟨alert.flag, ?_, ?_⟩
      · simp [up, risen]
      · exact fun zero _ => heard zero
  | turn stage commandLocked hasCommandsLocked turns =>
      refine ⟨alert.flag, ?_, ?_⟩
      · rintro (falling | blocked) queued
        · have empty : commander.todoBuffer = [] := alert.flag (turns.falling falling)
          have filled : commander.todoBuffer.isEmpty = false := queued
          simp [empty] at filled
        · exact alert.pending (Or.inl (turns.blocked blocked)) queued
      · exact fun zero _ => alert.calls zero (notifying_of_heldEntry turns.before)

theorem alert_step (commander : Commander World Body) (event : Event Body)
    (alert : commander.Alert) (finds : commander.Finds event) :
    ∀ next ∈ step program commander event, next.Alert := by
  intro next stepped
  cases event with
  | arrive request =>
      obtain rfl := Option.some.inj stepped
      refine ⟨alert.flag, ?_, ?_⟩
      · intro resting queued
        obtain ⟨call, member, pushed⟩ := alert.pending resting queued
        exact ⟨call, List.mem_append_left _ member, pushed⟩
      · intro zero quiet
        refine List.forall_mem_append.mpr ⟨alert.calls zero quiet, ?_⟩
        simp [Drowsy]
  | client index =>
      obtain ⟨call, found, move⟩ := clientStep_move stepped
      exact alert_clientMove alert found finds move
  | worker wakes => exact alert_workerMove alert (workerStep_move stepped) finds
  | wakeWorker =>
      obtain ⟨blocked, rfl⟩ := wakeWorker_step stepped
      refine alert.moveWorker ?_ rfl alert.flag rfl rfl rfl rfl
      rw [blocked]
      rfl
  | wakeClient index =>
      obtain ⟨call, found, blocked, rfl⟩ := wakeClient_step stepped
      refine alert.moveCall found (by simp [blocked]) rfl rfl rfl rfl rfl ?_
      exact fun _ _ => Or.inr blocked

/-- No wake-up is lost in a run whose notifications all find whom they are for. -/
theorem no_wakeUp_lost (program : Program World Body) (world : World)
    (events : List (Event Body)) (finds : Runs.Along (step program) Finds (start world) events) :
    Runs.Along (step program) (Runs.After (step program) fun _ _ next => next.AllHeard)
      (start world) events := by
  apply Runs.along_of_invariant _ _ (start_alert world) finds
  · intro commander event alert finds
    exact alert_step commander event alert finds
  · intro commander event alert finds next stepped
    exact (alert_step commander event alert finds next stepped).allHeard

theorem no_wakeUp_lost_blockedWorker :
    Runs.Along (step Program.idle)
      (Runs.After (step Program.idle) fun _ _ next => next.AllHeard) (start ())
      [.worker none, .worker none, .worker none, .worker none,
        .arrive (.doOne (.ofBody () true 4 7)), .client 0, .client 0, .client 0, .worker none] :=
  no_wakeUp_lost .idle () _ (by decide)

/-- The client notifies after the worker found the flag clear and before it blocks. -/
theorem wakeUp_lost_fallingWorker :
    ¬ ∀ (World Body : Type) (program : Program World Body) (world : World)
      (events : List (Event Body)),
      Runs.Along (step program) (Runs.After (step program) fun _ _ next => next.AllHeard)
        (start world) events := by
  intro claim
  have heard := claim Unit Unit .idle ()
    [.worker none, .worker none, .worker none,
      .arrive (.doOne (.ofBody () false 4 7)), .client 0, .client 0, .client 0, .worker none]
  revert heard
  decide

end Commander

end LeanMiniViews
