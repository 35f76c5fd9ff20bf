import LeanMiniViews.Runs
import LeanMiniViews.ThreadsSteps

/-!
Ownership of `hasCommandsLock`. The loop unlocks it after its first sleep and never locks it
again.
-/

namespace LeanMiniViews

namespace WorkerStage

variable {Body : Type}

def isEntering : WorkerStage Body → Bool
  | entering => true
  | _ => false

def usesLock : WorkerStage Body → Bool
  | entering => true
  | leavingWait => true
  | _ => false

def inWait : WorkerStage Body → Bool
  | falling => true
  | blocked => true
  | woken => true
  | leavingWait => true
  | _ => false

def isLeaving : WorkerStage Body → Bool
  | leavingWait => true
  | _ => false

end WorkerStage

inductive LockMove {Body : Type} : WorkerStage Body → Bool → WorkerStage Body → Bool → Prop
  | awake (before after : WorkerStage Body) (locked : Bool) (entering : before.isEntering = false)
      (was : before.inWait = false) (is : after.inWait = false) :
      LockMove before locked after locked
  | enter (after : WorkerStage Body) (locked : Bool)
      (tested : after = .falling ∨ after = .leavingWait) :
      LockMove .entering locked after locked
  | fall (locked : Bool) : LockMove .falling locked .blocked locked
  | wake (after : WorkerStage Body) (locked : Bool)
      (tested : after = .falling ∨ after = .leavingWait) :
      LockMove .woken locked after locked
  | leave : LockMove .leavingWait true .relocking false

namespace LockMove

variable {Body : Type} {before after : WorkerStage Body} {locked owned : Bool}

/-- Once the first wait was entered, the lock is owned in the wait and nowhere else. -/
def Slept (stage : WorkerStage Body) (locked : Bool) : Prop :=
  locked = stage.inWait

theorem inWait_of_tested {stage : WorkerStage Body}
    (tested : stage = .falling ∨ stage = .leavingWait) : stage.inWait = true := by
  rcases tested with rfl | rfl <;> rfl

theorem neverSlept (move : LockMove before locked after owned) (entering : before.isEntering = false)
    (awake : before.inWait = false) : after.inWait = false ∧ owned = locked := by
  cases move with
  | awake _ _ _ _ _ is => exact ⟨is, rfl⟩
  | enter => cases entering
  | fall => cases awake
  | wake => cases awake
  | leave => cases awake

theorem first (move : LockMove before true after owned) (entering : before.isEntering = true) :
    Slept after owned := by
  cases move with
  | awake _ _ _ notEntering => simp [entering] at notEntering
  | enter _ _ tested => exact (inWait_of_tested tested).symm
  | fall => cases entering
  | wake => cases entering
  | leave => cases entering

theorem owned_of_slept {stage : WorkerStage Body} (entering : stage.isEntering = false)
    (slept : Slept stage locked) (uses : stage.usesLock = true) : locked = true := by
  cases stage with
  | entering => cases entering
  | leavingWait => exact slept
  | _ => cases uses

theorem slept (move : LockMove before locked after owned) (entering : before.isEntering = false)
    (slept : Slept before locked) : Slept after owned := by
  cases move with
  | awake _ _ _ _ was is => exact slept.trans (was.trans is.symm)
  | enter => cases entering
  | fall => exact slept
  | wake _ _ tested => exact slept.trans (inWait_of_tested tested).symm
  | leave => rfl

/-- Only the unlock gives the ownership up, and nothing takes it back. -/
theorem owned_of_not_leaving (move : LockMove before locked after owned)
    (stays : before.isLeaving = false) : owned = locked := by
  cases move with
  | leave => cases stays
  | _ => rfl

theorem unlocked_of_leaving (move : LockMove before locked after owned)
    (leaves : before.isLeaving = true) : owned = false := by
  cases move with
  | awake _ _ _ _ was =>
      cases before with
      | leavingWait => cases was
      | _ => cases leaves
  | leave => rfl
  | _ => cases leaves

end LockMove

namespace Commander

variable {World Body : Type}

def OwnsLock (commander : Commander World Body) : Event Body → Prop
  | .worker _ => commander.stage.usesLock = true → commander.hasCommandsLocked = true
  | _ => True

instance (commander : Commander World Body) :
    ∀ event : Event Body, Decidable (commander.OwnsLock event)
  | .worker _ => inferInstanceAs (Decidable (_ → _))
  | .arrive _ => isTrue trivial
  | .client _ => isTrue trivial
  | .wakeWorker => isTrue trivial
  | .wakeClient _ => isTrue trivial

def entersWait (commander : Commander World Body) : Event Body → Bool
  | .worker _ => commander.stage.isEntering
  | _ => false

/-- `hasCommandsLock.unlock()`, with the predicate of the wait true. -/
def leavesWait (commander : Commander World Body) : Event Body → Bool
  | .worker _ => commander.stage.isLeaving
  | _ => false

def UnlocksOwned (commander : Commander World Body) (event : Event Body) : Prop :=
  commander.leavesWait event = true → commander.hasCommandsLocked = true

def NeverSlept (commander : Commander World Body) : Prop :=
  commander.stage.inWait = false ∧ commander.hasCommandsLocked = true

def Slept (commander : Commander World Body) : Prop :=
  LockMove.Slept commander.stage commander.hasCommandsLocked

variable {program : Program World Body} {commander next : Commander World Body}

theorem clientMove_stage {index : Nat} {call : Call Body}
    (move : commander.ClientMove index call next) :
    next.hasCommandsLocked = commander.hasCommandsLocked ∧
      (next.stage = commander.stage ∨
        (commander.stage = .blocked ∧ next.stage = .woken)) := by
  cases move with
  | push locked => exact ⟨rfl, Or.inl rfl⟩
  | notify pushed =>
      rcases commander.notifyWorker_cases with ⟨blocked, woken⟩ | ⟨-, same⟩
      · rw [woken]
        exact ⟨rfl, Or.inr ⟨blocked, rfl⟩⟩
      · rw [same]
        exact ⟨rfl, Or.inl rfl⟩
  | pass stage commandLocked synchronousLocked before passes => exact ⟨rfl, Or.inl rfl⟩

theorem step_stage {event : Event Body} (stepped : commander.step program event = some next)
    (other : ∀ wakes, event ≠ .worker wakes) :
    next.hasCommandsLocked = commander.hasCommandsLocked ∧
      (next.stage = commander.stage ∨
        (commander.stage = .blocked ∧ next.stage = .woken)) := by
  cases event with
  | arrive request =>
      obtain rfl := Option.some.inj stepped
      exact ⟨rfl, Or.inl rfl⟩
  | client index =>
      obtain ⟨call, -, move⟩ := clientStep_move stepped
      exact clientMove_stage move
  | worker wakes => exact absurd rfl (other wakes)
  | wakeWorker =>
      obtain ⟨blocked, rfl⟩ := wakeWorker_step stepped
      exact ⟨rfl, Or.inr ⟨blocked, rfl⟩⟩
  | wakeClient index =>
      obtain ⟨call, -, -, rfl⟩ := wakeClient_step stepped
      exact ⟨rfl, Or.inl rfl⟩

theorem testHasCommands_tested (commander : Commander World Body) :
    commander.testHasCommands.stage = .falling ∨
      commander.testHasCommands.stage = .leavingWait := by
  unfold testHasCommands
  cases commander.hasCommandsToExecute with
  | false => exact Or.inl rfl
  | true => exact Or.inr rfl

theorem loop_lock (commander : Commander World Body) (entry : Entry Body) :
    (commander.loop entry).hasCommandsLocked = commander.hasCommandsLocked ∧
      (commander.loop entry).stage.inWait = false := by
  unfold loop
  split
  · exact ⟨rfl, rfl⟩
  · exact ⟨rfl, rfl⟩

theorem workerStep_lock {wakes : Option Nat}
    (stepped : commander.workerStep program wakes = some next) :
    LockMove commander.stage commander.hasCommandsLocked next.stage next.hasCommandsLocked := by
  unfold workerStep at stepped
  split at stepped
  case h_1 top =>
    split at stepped
    · cases stepped
    · obtain rfl := Option.some.inj stepped
      exact top ▸ .awake .top .checking _ rfl rfl rfl
  case h_2 checking =>
    split at stepped
    · obtain rfl := Option.some.inj stepped
      exact checking ▸ .awake .checking .entering _ rfl rfl rfl
    · obtain rfl := Option.some.inj stepped
      exact checking ▸ .awake .checking .popping _ rfl rfl rfl
  case h_3 entering =>
    obtain rfl := Option.some.inj stepped
    exact entering ▸ .enter _ _ commander.testHasCommands_tested
  case h_4 falling =>
    obtain rfl := Option.some.inj stepped
    exact falling ▸ .fall _
  case h_5 blocked => cases stepped
  case h_6 woken =>
    obtain rfl := Option.some.inj stepped
    exact woken ▸ .wake _ _ commander.testHasCommands_tested
  case h_7 leaving =>
    split at stepped
    · rename_i owned
      obtain rfl := Option.some.inj stepped
      exact leaving ▸ owned ▸ .leave
    · cases stepped
  case h_8 relocking =>
    split at stepped
    · cases stepped
    · obtain rfl := Option.some.inj stepped
      exact relocking ▸ .awake .relocking .popping _ rfl rfl rfl
  case h_9 popping =>
    split at stepped
    · obtain rfl := Option.some.inj stepped
      exact popping ▸ .awake .popping .top _ rfl rfl rfl
    · rename_i entry later queue
      obtain rfl := Option.some.inj stepped
      exact popping ▸ .awake .popping (.executing entry) _ rfl rfl rfl
  case h_10 entry executing =>
    obtain ⟨worker, rfl⟩ := execute_eq stepped
    exact executing ▸ .awake (.executing entry) (.finished entry) _ rfl rfl rfl
  case h_11 entry finished =>
    split at stepped
    · obtain rfl := Option.some.inj stepped
      exact finished ▸ .awake (.finished entry) (.notifying entry) _ rfl rfl rfl
    · obtain rfl := Option.some.inj stepped
      obtain ⟨same, awake⟩ := commander.loop_lock entry
      rw [same, finished]
      exact .awake _ _ _ rfl rfl awake
  case h_12 entry notifying =>
    obtain ⟨told, notified, rfl⟩ := Option.map_eq_some_iff.mp stepped
    obtain ⟨calls, rfl⟩ := notifyClient_calls notified
    obtain ⟨same, awake⟩ := Commander.loop_lock { commander with calls := calls } entry
    rw [same, notifying]
    exact .awake _ _ _ rfl rfl awake
  case h_13 stopped => cases stepped

/-! The runs. -/

theorem entersWait_worker {event : Event Body} (enters : commander.entersWait event = true) :
    (∃ wakes, event = .worker wakes) ∧ commander.stage.isEntering = true := by
  cases event with
  | worker wakes => exact ⟨⟨wakes, rfl⟩, enters⟩
  | _ => cases enters

theorem usesLock_of_isEntering {stage : WorkerStage Body} (entering : stage.isEntering = true) :
    stage.usesLock = true ∧ stage.inWait = false := by
  cases stage with
  | entering => exact ⟨rfl, rfl⟩
  | _ => cases entering

theorem neverSlept_owns (commander : Commander World Body) (event : Event Body)
    (fresh : commander.NeverSlept) : commander.OwnsLock event := by
  cases event with
  | worker wakes => exact fun _ => fresh.2
  | _ => trivial

theorem neverSlept_step (commander : Commander World Body) (event : Event Body)
    (fresh : commander.NeverSlept) (unmarked : commander.entersWait event = false) :
    ∀ next ∈ step program commander event, next.NeverSlept := by
  intro next stepped
  by_cases worker : ∃ wakes, event = .worker wakes
  · obtain ⟨wakes, rfl⟩ := worker
    obtain ⟨awake, same⟩ := (workerStep_lock stepped).neverSlept unmarked fresh.1
    exact ⟨awake, same.trans fresh.2⟩
  · obtain ⟨lock, same | ⟨blocked, -⟩⟩ :=
      step_stage stepped fun wakes same => worker ⟨wakes, same⟩
    · exact ⟨same ▸ fresh.1, lock.trans fresh.2⟩
    · have awake := fresh.1
      rw [blocked] at awake
      cases awake

theorem slept_enter (commander : Commander World Body) (event : Event Body)
    (fresh : commander.NeverSlept) (marked : commander.entersWait event = true) :
    ∀ next ∈ step program commander event, next.Slept := by
  intro next stepped
  obtain ⟨⟨wakes, rfl⟩, entering⟩ := entersWait_worker marked
  have move := workerStep_lock stepped
  rw [fresh.2] at move
  exact move.first entering

theorem slept_step (commander : Commander World Body) (event : Event Body)
    (slept : commander.Slept) (unmarked : commander.entersWait event = false) :
    commander.OwnsLock event ∧ ∀ next ∈ step program commander event, next.Slept := by
  by_cases worker : ∃ wakes, event = .worker wakes
  · obtain ⟨wakes, rfl⟩ := worker
    refine ⟨LockMove.owned_of_slept unmarked slept, ?_⟩
    intro next stepped
    exact (workerStep_lock stepped).slept unmarked slept
  · have other : ∀ wakes, event ≠ .worker wakes := fun wakes same => worker ⟨wakes, same⟩
    refine ⟨?_, ?_⟩
    · cases event with
      | worker wakes => exact absurd rfl (other wakes)
      | _ => trivial
    · intro next stepped
      obtain ⟨lock, same | ⟨blocked, woken⟩⟩ := step_stage stepped other
      · rw [Slept, same, lock]
        exact slept
      · rw [Slept, woken, lock]
        exact slept.trans (by rw [blocked]; rfl)

theorem slept_breaks (commander : Commander World Body) (event : Event Body)
    (slept : commander.Slept) (marked : commander.entersWait event = true) :
    ¬ commander.OwnsLock event := by
  obtain ⟨⟨wakes, rfl⟩, entering⟩ := entersWait_worker marked
  obtain ⟨uses, awake⟩ := usesLock_of_isEntering entering
  intro owns
  have unlocked : commander.hasCommandsLocked = false := slept.trans awake
  rw [owns uses] at unlocked
  cases unlocked

theorem leavesWait_worker {event : Event Body} (leaves : commander.leavesWait event = true) :
    (∃ wakes, event = .worker wakes) ∧ commander.stage.isLeaving = true := by
  cases event with
  | worker wakes => exact ⟨⟨wakes, rfl⟩, leaves⟩
  | _ => cases leaves

theorem hasCommandsLocked_kept {event : Event Body}
    (stepped : commander.step program event = some next)
    (unmarked : commander.leavesWait event = false) :
    next.hasCommandsLocked = commander.hasCommandsLocked := by
  by_cases worker : ∃ wakes, event = .worker wakes
  · obtain ⟨wakes, rfl⟩ := worker
    exact (workerStep_lock stepped).owned_of_not_leaving unmarked
  · exact (step_stage stepped fun wakes same => worker ⟨wakes, same⟩).1

theorem hasCommandsLocked_left {event : Event Body}
    (stepped : commander.step program event = some next)
    (marked : commander.leavesWait event = true) : next.hasCommandsLocked = false := by
  obtain ⟨⟨wakes, rfl⟩, leaving⟩ := leavesWait_worker marked
  exact (workerStep_lock stepped).unlocked_of_leaving leaving

/-- The first unlock is one of an owned lock, a second one never is. -/
theorem unlocksOwned_iff (program : Program World Body) (world : World)
    (events : List (Event Body)) :
    Runs.Along (step program) UnlocksOwned (start world) events ↔
      Runs.count (step program) leavesWait (start world) events ≤ 1 := by
  have unmarked (commander : Commander World Body) (event : Event Body)
      (owned : commander.hasCommandsLocked = true) (stays : commander.leavesWait event = false) :
      ∀ next ∈ step program commander event, next.hasCommandsLocked = true :=
    fun _ stepped => (hasCommandsLocked_kept stepped stays).trans owned
  have once (commander : Commander World Body) (event : Event Body)
      (_ : commander.hasCommandsLocked = true) (leaves : commander.leavesWait event = true) :
      ∀ next ∈ step program commander event, next.hasCommandsLocked = false :=
    fun _ stepped => hasCommandsLocked_left stepped leaves
  have kept (commander : Commander World Body) (event : Event Body)
      (unlocked : commander.hasCommandsLocked = false)
      (stays : commander.leavesWait event = false) :
      commander.UnlocksOwned event ∧
        ∀ next ∈ step program commander event, next.hasCommandsLocked = false := by
    refine ⟨fun leaves => by simp [stays] at leaves, ?_⟩
    exact fun _ stepped => (hasCommandsLocked_kept stepped stays).trans unlocked
  have broken (commander : Commander World Body) (event : Event Body)
      (unlocked : commander.hasCommandsLocked = false)
      (leaves : commander.leavesWait event = true) : ¬ commander.UnlocksOwned event :=
    fun owned => by simp [owned leaves] at unlocked
  have first (commander : Commander World Body) (event : Event Body)
      (owned : commander.hasCommandsLocked = true) : commander.UnlocksOwned event :=
    fun _ => owned
  exact Runs.along_iff_count_le_one first unmarked once kept broken rfl

/-- The lock is owned wherever it is handed to `wait` or unlocked in exactly the runs that enter
the wait at most once. -/
theorem lock_owned_iff (program : Program World Body) (world : World)
    (events : List (Event Body)) :
    Runs.Along (step program) OwnsLock (start world) events ↔
      Runs.count (step program) entersWait (start world) events ≤ 1 := by
  have fresh : (start world : Commander World Body).NeverSlept := ⟨rfl, rfl⟩
  exact Runs.along_iff_count_le_one neverSlept_owns neverSlept_step slept_enter slept_step
    slept_breaks fresh

/-- The worker goes to sleep, executes one command and goes to sleep again. -/
theorem lock_not_owned_secondSleep :
    ¬ ∀ (World Body : Type) (program : Program World Body) (world : World)
      (events : List (Event Body)),
      Runs.Along (step program) OwnsLock (start world) events := by
  intro claim
  have owned := claim Unit Unit .idle ()
    [.worker none, .worker none, .worker none, .worker none,
      .arrive (.doOne (.ofBody () false 4 7)), .client 0, .client 0, .client 0, .client 0,
      .worker none, .worker none, .worker none, .worker none, .worker none, .worker none,
      .worker none, .worker none, .worker none]
  revert owned
  decide

end Commander

end LeanMiniViews
