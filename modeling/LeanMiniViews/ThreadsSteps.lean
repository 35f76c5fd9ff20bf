import LeanMiniViews.ThreadsCore

/-!
What one step of a client call and one step of the worker can do. The runs of the other modules
are split along these cases.
-/

namespace LeanMiniViews

namespace WorkerStage

variable {Body : Type}

def heldEntry : WorkerStage Body → Option (Entry Body)
  | executing entry => some entry
  | finished entry => some entry
  | notifying entry => some entry
  | _ => none

def isFalling : WorkerStage Body → Bool
  | falling => true
  | _ => false

def isBlocked : WorkerStage Body → Bool
  | blocked => true
  | _ => false

end WorkerStage

namespace Commander

variable {World Body : Type} {program : Program World Body}
  {commander next : Commander World Body}

/-! A client. -/

theorem forall_set {calls : List (Call Body)} {index : Nat} {new : Call Body}
    {holds : Call Body → Prop} (changed : holds new) (old : ∀ call ∈ calls, holds call) :
    ∀ call ∈ calls.set index new, holds call := by
  intro call member
  rcases List.mem_or_eq_of_mem_set member with before | rfl
  · exact old call before
  · exact changed

theorem notifyWorker_cases (commander : Commander World Body) :
    (commander.stage = .blocked ∧
      commander.notifyWorker = { commander with stage := .woken }) ∨
    (commander.stage.isBlocked = false ∧ commander.notifyWorker = commander) := by
  unfold notifyWorker
  cases stage : commander.stage with
  | blocked => exact Or.inl ⟨rfl, rfl⟩
  | _ => exact Or.inr ⟨rfl, rfl⟩

/-- A call that only moves on, to `stage`: it falls asleep only with the counter above zero, and
leaves its wait only with the counter at zero. -/
structure Passes (commander : Commander World Body) (call : Call Body) (stage : CallStage) :
    Prop where
  not_pushed : stage ≠ .pushed
  falling : stage = .falling → commander.numSynchronousCommands ≠ 0
  blocked : stage = .blocked → call.stage = .falling
  left : stage = .returned ∨ stage = .joining →
    call.request.returnsAtOnce = true ∨ commander.numSynchronousCommands = 0 ∨
      call.stage = .joining

theorem leaveWait_passes (commander : Commander World Body) (index : Nat) (call : Call Body)
    (zero : commander.numSynchronousCommands = 0) :
    ∃ stage, commander.leaveWait index call = commander.restage index call stage ∧
      commander.Passes call stage := by
  unfold leaveWait
  split
  · exact ⟨.joining, rfl, by simp, by simp, by simp, fun _ => Or.inr (Or.inl zero)⟩
  · exact ⟨.returned, rfl, by simp, by simp, by simp, fun _ => Or.inr (Or.inl zero)⟩

theorem testCounter_passes (commander : Commander World Body) (index : Nat) (call : Call Body) :
    ∃ stage, commander.testCounter index call = commander.restage index call stage ∧
      commander.Passes call stage := by
  unfold testCounter
  split
  · exact commander.leaveWait_passes index call ‹_›
  · rename_i above
    exact ⟨.falling, rfl, by simp, fun _ => above, by simp, by simp⟩

inductive ClientMove (commander : Commander World Body) (index : Nat) (call : Call Body) :
    Commander World Body → Prop
  | push (locked : call.stage = .locked) : ClientMove commander index call (commander.push index call)
  | notify (pushed : call.stage = .pushed) :
      ClientMove commander index call (commander.notifyWorker.restage index call .notified)
  | pass (stage : CallStage) (commandLocked synchronousLocked : Bool)
      (before : call.stage ≠ .pushed) (passes : commander.Passes call stage) :
      ClientMove commander index call
        { commander.restage index call stage with
          commandLocked := commandLocked, synchronousLocked := synchronousLocked }

theorem clientStep_move {index : Nat} (stepped : commander.clientStep index = some next) :
    ∃ call, commander.calls[index]? = some call ∧ commander.ClientMove index call next := by
  unfold clientStep at stepped
  cases found : commander.calls[index]? with
  | none => simp [found] at stepped
  | some call =>
      refine ⟨call, rfl, ?_⟩
      rw [found] at stepped
      dsimp only at stepped
      split at stepped
      case h_1 arrived =>
        split at stepped
        · cases stepped
        · obtain rfl := Option.some.inj stepped
          exact .pass .locked true _ (by simp [arrived]) ⟨by simp, by simp, by simp, by simp⟩
      case h_2 locked =>
        obtain rfl := Option.some.inj stepped
        exact .push locked
      case h_3 pushed =>
        obtain rfl := Option.some.inj stepped
        exact .notify pushed
      case h_4 notified =>
        obtain rfl := Option.some.inj stepped
        exact .pass .unlocked false _ (by simp [notified]) ⟨by simp, by simp, by simp, by simp⟩
      case h_5 unlocked =>
        have before : call.stage ≠ .pushed := by simp [unlocked]
        split at stepped
        · rename_i atOnce
          obtain rfl := Option.some.inj stepped
          exact .pass .returned _ _ before ⟨by simp, by simp, by simp, fun _ => Or.inl atOnce⟩
        · split at stepped
          · obtain rfl := Option.some.inj stepped
            exact .pass .waiting _ _ before ⟨by simp, by simp, by simp, by simp⟩
          · rename_i unasked
            obtain rfl := Option.some.inj stepped
            have zero : commander.numSynchronousCommands = 0 := by
              simp only [Bool.or_eq_true, bne_iff_ne, ne_eq, not_or, not_not] at unasked
              exact unasked.2
            obtain ⟨stage, same, passes⟩ := commander.leaveWait_passes index call zero
            rw [same]
            exact .pass stage _ _ before passes
      case h_6 waiting =>
        obtain rfl := Option.some.inj stepped
        obtain ⟨stage, same, passes⟩ := commander.testCounter_passes index call
        rw [same]
        exact .pass stage _ _ (by simp [waiting]) passes
      case h_7 falling =>
        obtain rfl := Option.some.inj stepped
        exact .pass .blocked _ false (by simp [falling])
          ⟨by simp, by simp, fun _ => falling, by simp⟩
      case h_8 blocked => cases stepped
      case h_9 woken =>
        split at stepped
        · cases stepped
        · obtain rfl := Option.some.inj stepped
          obtain ⟨stage, same, passes⟩ := commander.testCounter_passes index call
          rw [same]
          exact .pass stage _ true (by simp [woken]) passes
      case h_10 joining =>
        split at stepped
        · obtain rfl := Option.some.inj stepped
          exact .pass .returned _ _ (by simp [joining])
            ⟨by simp, by simp, by simp, fun _ => Or.inr (Or.inr joining)⟩
        · cases stepped
      case h_11 returned => cases stepped

/-! The worker. -/

/-- The worker only moves on, without an entry in hand: it falls asleep only after it found
`hasCommandsToExecute` clear. -/
structure Turns (commander : Commander World Body) (stage : WorkerStage Body) : Prop where
  before : commander.stage.heldEntry = none
  after : stage.heldEntry = none
  falling : stage.isFalling = true → commander.hasCommandsToExecute = false
  blocked : stage.isBlocked = true → commander.stage.isFalling = true

theorem testHasCommands_turns (commander : Commander World Body)
    (empty : commander.stage.heldEntry = none) :
    ∃ stage, commander.testHasCommands = { commander with stage := stage } ∧
      commander.Turns stage := by
  unfold testHasCommands
  cases found : commander.hasCommandsToExecute with
  | false => exact ⟨.falling, rfl, empty, rfl, fun _ => found, by simp [WorkerStage.isBlocked]⟩
  | true =>
      exact ⟨.leavingWait, rfl, empty, rfl, by simp [WorkerStage.isFalling],
        by simp [WorkerStage.isBlocked]⟩

inductive WorkerMove (program : Program World Body) (commander : Commander World Body) :
    Commander World Body → Prop
  | rest (checking : commander.stage = .checking) (empty : commander.todoBuffer = []) :
      WorkerMove program commander
        { commander with
          hasCommandsToExecute := false, commandLocked := false, stage := .entering }
  | pop (entry : Entry Body) (later : List (Entry Body)) (popping : commander.stage = .popping)
      (queue : commander.todoBuffer = entry :: later) :
      WorkerMove program commander
        { commander with
          todoBuffer := later, commandLocked := false, stage := .executing entry }
  | execute (entry : Entry Body) (next : Commander World Body)
      (executing : commander.stage = .executing entry)
      (executed : commander.execute program entry = some next) :
      WorkerMove program commander next
  | countOff (entry : Entry Body) (finished : commander.stage = .finished entry)
      (synchronous : entry.item.isSynchronous = true) :
      WorkerMove program commander
        { commander with
          numSynchronousCommands := commander.numSynchronousCommands - 1
          stage := .notifying entry }
  | finish (entry : Entry Body) (finished : commander.stage = .finished entry)
      (asynchronous : entry.item.isSynchronous = false) :
      WorkerMove program commander (commander.loop entry)
  | notify (entry : Entry Body) (wakes : Option Nat) (told : Commander World Body)
      (notifying : commander.stage = .notifying entry)
      (notified : commander.notifyClient wakes = some told) :
      WorkerMove program commander (told.loop entry)
  | turn (stage : WorkerStage Body) (commandLocked hasCommandsLocked : Bool)
      (turns : commander.Turns stage) :
      WorkerMove program commander
        { commander with
          stage := stage, commandLocked := commandLocked, hasCommandsLocked := hasCommandsLocked }

theorem workerStep_move {wakes : Option Nat}
    (stepped : commander.workerStep program wakes = some next) :
    commander.WorkerMove program next := by
  have quiet {before after : WorkerStage Body} (here : commander.stage = before)
      (empty : before.heldEntry = none) (free : after.heldEntry = none)
      (awake : after.isFalling = false) (up : after.isBlocked = false) :
      commander.Turns after :=
    ⟨here ▸ empty, free, by simp [awake], by simp [up]⟩
  unfold workerStep at stepped
  split at stepped
  case h_1 top =>
    split at stepped
    · cases stepped
    · obtain rfl := Option.some.inj stepped
      exact .turn .checking true _ (quiet top rfl rfl rfl rfl)
  case h_2 checking =>
    split at stepped
    · rename_i empty
      obtain rfl := Option.some.inj stepped
      exact .rest checking empty
    · obtain rfl := Option.some.inj stepped
      exact .turn .popping _ _ (quiet checking rfl rfl rfl rfl)
  case h_3 entering =>
    obtain rfl := Option.some.inj stepped
    obtain ⟨stage, same, turns⟩ := commander.testHasCommands_turns (by rw [entering]; rfl)
    rw [same]
    exact .turn stage _ _ turns
  case h_4 falling =>
    obtain rfl := Option.some.inj stepped
    exact .turn .blocked _ _
      ⟨by rw [falling]; rfl, rfl, by simp [WorkerStage.isFalling], fun _ => by rw [falling]; rfl⟩
  case h_5 blocked => cases stepped
  case h_6 woken =>
    obtain rfl := Option.some.inj stepped
    obtain ⟨stage, same, turns⟩ := commander.testHasCommands_turns (by rw [woken]; rfl)
    rw [same]
    exact .turn stage _ _ turns
  case h_7 leaving =>
    split at stepped
    · obtain rfl := Option.some.inj stepped
      exact .turn .relocking _ false (quiet leaving rfl rfl rfl rfl)
    · cases stepped
  case h_8 relocking =>
    split at stepped
    · cases stepped
    · obtain rfl := Option.some.inj stepped
      exact .turn .popping true _ (quiet relocking rfl rfl rfl rfl)
  case h_9 popping =>
    split at stepped
    · obtain rfl := Option.some.inj stepped
      exact .turn .top false _ (quiet popping rfl rfl rfl rfl)
    · rename_i entry later queue
      obtain rfl := Option.some.inj stepped
      exact .pop entry later popping queue
  case h_10 entry executing => exact .execute entry next executing stepped
  case h_11 entry finished =>
    split at stepped
    · rename_i synchronous
      obtain rfl := Option.some.inj stepped
      exact .countOff entry finished synchronous
    · rename_i asynchronous
      obtain rfl := Option.some.inj stepped
      exact .finish entry finished (Bool.eq_false_iff.mpr asynchronous)
  case h_12 entry notifying =>
    obtain ⟨told, notified, rfl⟩ := Option.map_eq_some_iff.mp stepped
    exact .notify entry wakes told notifying notified
  case h_13 stopped => cases stepped

theorem loop_stage (commander : Commander World Body) (entry : Entry Body) :
    ∃ stage, commander.loop entry = { commander with stage := stage } ∧
      stage.heldEntry = none ∧ stage.isFalling = false ∧ stage.isBlocked = false := by
  unfold loop
  split
  · exact ⟨.stopped, rfl, rfl, rfl, rfl⟩
  · exact ⟨.top, rfl, rfl, rfl, rfl⟩

theorem notifyClient_cases {wakes : Option Nat} {told : Commander World Body}
    (notified : commander.notifyClient wakes = some told) :
    (told = commander ∧ ∀ call ∈ commander.calls, call.stage ≠ .blocked) ∨
    ∃ index call, commander.calls[index]? = some call ∧ call.stage = .blocked ∧
      told = commander.restage index call .woken := by
  unfold notifyClient at notified
  split at notified
  · split at notified
    · rename_i awake
      refine Or.inl ⟨(Option.some.inj notified).symm, ?_⟩
      simpa using awake
    · cases notified
  · rename_i index
    split at notified
    · cases notified
    · rename_i call found
      split at notified
      · rename_i blocked
        exact Or.inr ⟨index, call, found, blocked, (Option.some.inj notified).symm⟩
      · cases notified

theorem notifyClient_calls {wakes : Option Nat} {told : Commander World Body}
    (notified : commander.notifyClient wakes = some told) :
    ∃ calls, told = { commander with calls := calls } := by
  rcases notifyClient_cases notified with ⟨rfl, -⟩ | ⟨index, call, -, -, rfl⟩
  · exact ⟨told.calls, rfl⟩
  · exact ⟨commander.calls.set index { call with stage := .woken }, rfl⟩

theorem execute_eq {entry : Entry Body} (executed : commander.execute program entry = some next) :
    ∃ worker, next = { commander with
      worker := worker
      performed := commander.performed ++ [(entry.serial, commander.workOf entry.item)]
      stage := .finished entry } := by
  obtain ⟨worker, -, rfl⟩ := Option.map_eq_some_iff.mp executed
  exact ⟨worker, rfl⟩

/-! Waking without a notification. -/

theorem wakeWorker_step (stepped : commander.step program .wakeWorker = some next) :
    commander.stage = .blocked ∧ next = { commander with stage := .woken } := by
  simp only [step] at stepped
  split at stepped
  · exact ⟨‹_›, (Option.some.inj stepped).symm⟩
  · cases stepped

theorem wakeClient_step {index : Nat}
    (stepped : commander.step program (.wakeClient index) = some next) :
    ∃ call, commander.calls[index]? = some call ∧ call.stage = .blocked ∧
      next = commander.restage index call .woken := by
  simp only [step] at stepped
  split at stepped
  · cases stepped
  · rename_i call found
    split at stepped
    · exact ⟨call, found, ‹_›, (Option.some.inj stepped).symm⟩
    · cases stepped

end Commander

end LeanMiniViews
