import LeanMiniViews.Runs
import LeanMiniViews.ThreadsSteps

/-!
Who holds `commandLocker`. The clients and the worker take it in turns, and whoever has it can go
on without waiting for anybody.
-/

namespace LeanMiniViews

namespace CallStage

def holdsLocker : CallStage → Bool
  | locked => true
  | pushed => true
  | notified => true
  | _ => false

def hasPushed : CallStage → Bool
  | arrived => false
  | locked => false
  | _ => true

end CallStage

namespace WorkerStage

variable {Body : Type}

def holdsLocker : WorkerStage Body → Bool
  | checking => true
  | popping => true
  | _ => false

def isStopped : WorkerStage Body → Bool
  | stopped => true
  | _ => false

end WorkerStage

def Request.isTerminate {Body : Type} : Request Body → Bool
  | terminate => true
  | _ => false

namespace Commander

variable {World Body : Type}

/-- How many threads are between `commandLocker.lock` and the unlock that follows it. -/
def holders (commander : Commander World Body) : Nat :=
  commander.calls.countP (·.stage.holdsLocker) + commander.stage.holdsLocker.toNat

def LockerKept (commander : Commander World Body) : Prop :=
  commander.holders = commander.commandLocked.toNat

theorem start_lockerKept (world : World) : (start world : Commander World Body).LockerKept := rfl

variable {program : Program World Body} {commander next : Commander World Body}

/-! The steps of a call, by what they do with the locker. -/

inductive LockerMove (commander : Commander World Body) (index : Nat) (call : Call Body) :
    Commander World Body → Prop
  | take (arrived : call.stage = .arrived) (free : commander.commandLocked = false) :
      LockerMove commander index call
        { commander.restage index call .locked with commandLocked := true }
  | push (locked : call.stage = .locked) :
      LockerMove commander index call (commander.push index call)
  | notify (pushed : call.stage = .pushed) :
      LockerMove commander index call (commander.notifyWorker.restage index call .notified)
  | give (notified : call.stage = .notified) :
      LockerMove commander index call
        { commander.restage index call .unlocked with commandLocked := false }
  | wait (stage : CallStage) (synchronousLocked : Bool)
      (before : call.stage.hasPushed = true ∧ call.stage.holdsLocker = false)
      (after : stage.hasPushed = true ∧ stage.holdsLocker = false)
      (joined : stage = .returned → call.request.isTerminate = true →
        commander.stage.isStopped = true) :
      LockerMove commander index call
        { commander.restage index call stage with synchronousLocked := synchronousLocked }

theorem leaveWait_waits (commander : Commander World Body) (index : Nat) (call : Call Body) :
    ∃ stage, commander.leaveWait index call = commander.restage index call stage ∧
      (stage.hasPushed = true ∧ stage.holdsLocker = false) ∧
      (stage = .returned → call.request.isTerminate = true →
        commander.stage.isStopped = true) := by
  unfold leaveWait
  split
  · exact ⟨.joining, rfl, ⟨rfl, rfl⟩, by simp⟩
  · rename_i other
    refine ⟨.returned, rfl, ⟨rfl, rfl⟩, ?_⟩
    intro _ terminates
    cases asked : call.request with
    | terminate => exact absurd asked other
    | _ => simp [asked, Request.isTerminate] at terminates

theorem testCounter_waits (commander : Commander World Body) (index : Nat) (call : Call Body) :
    ∃ stage, commander.testCounter index call = commander.restage index call stage ∧
      (stage.hasPushed = true ∧ stage.holdsLocker = false) ∧
      (stage = .returned → call.request.isTerminate = true →
        commander.stage.isStopped = true) := by
  unfold testCounter
  split
  · exact commander.leaveWait_waits index call
  · exact ⟨.falling, rfl, ⟨rfl, rfl⟩, by simp⟩

theorem not_terminate_of_returnsAtOnce {request : Request Body}
    (atOnce : request.returnsAtOnce = true) : request.isTerminate = false := by
  cases request with
  | terminate => cases atOnce
  | _ => rfl

theorem clientStep_locker {index : Nat} (stepped : commander.clientStep index = some next) :
    ∃ call, commander.calls[index]? = some call ∧ commander.LockerMove index call next := by
  unfold clientStep at stepped
  cases found : commander.calls[index]? with
  | none => simp [found] at stepped
  | some call =>
      refine ⟨call, rfl, ?_⟩
      rw [found] at stepped
      dsimp only at stepped
      split at stepped
      case h_1 arrived =>
        split at stepped
        · cases stepped
        · rename_i free
          obtain rfl := Option.some.inj stepped
          exact .take arrived (Bool.eq_false_iff.mpr free)
      case h_2 locked =>
        obtain rfl := Option.some.inj stepped
        exact .push locked
      case h_3 pushed =>
        obtain rfl := Option.some.inj stepped
        exact .notify pushed
      case h_4 notified =>
        obtain rfl := Option.some.inj stepped
        exact .give notified
      case h_5 unlocked =>
        have before : call.stage.hasPushed = true ∧ call.stage.holdsLocker = false := by
          rw [unlocked]
          exact ⟨rfl, rfl⟩
        split at stepped
        · rename_i atOnce
          obtain rfl := Option.some.inj stepped
          refine .wait .returned _ before ⟨rfl, rfl⟩ ?_
          intro _ terminates
          simp [not_terminate_of_returnsAtOnce atOnce] at terminates
        · split at stepped
          · obtain rfl := Option.some.inj stepped
            exact .wait .waiting _ before ⟨rfl, rfl⟩ (by simp)
          · obtain rfl := Option.some.inj stepped
            obtain ⟨stage, same, after, joined⟩ := commander.leaveWait_waits index call
            rw [same]
            exact .wait stage _ before after joined
      case h_6 waiting =>
        obtain rfl := Option.some.inj stepped
        obtain ⟨stage, same, after, joined⟩ := commander.testCounter_waits index call
        rw [same]
        exact .wait stage _ (by rw [waiting]; exact ⟨rfl, rfl⟩) after joined
      case h_7 falling =>
        obtain rfl := Option.some.inj stepped
        exact .wait .blocked false (by rw [falling]; exact ⟨rfl, rfl⟩) ⟨rfl, rfl⟩ (by simp)
      case h_8 blocked => cases stepped
      case h_9 woken =>
        split at stepped
        · cases stepped
        · obtain rfl := Option.some.inj stepped
          obtain ⟨stage, same, after, joined⟩ := commander.testCounter_waits index call
          rw [same]
          exact .wait stage true (by rw [woken]; exact ⟨rfl, rfl⟩) after joined
      case h_10 joining =>
        split at stepped
        · rename_i stopped
          obtain rfl := Option.some.inj stepped
          refine .wait .returned _ (by rw [joining]; exact ⟨rfl, rfl⟩) ⟨rfl, rfl⟩ ?_
          intro _ _
          rw [stopped]
          rfl
        · cases stepped
      case h_11 returned => cases stepped

/-! The steps of the worker. -/

end Commander

inductive LockerTurn {Body : Type} : WorkerStage Body → Bool → WorkerStage Body → Bool → Prop
  | keep (before after : WorkerStage Body) (locked : Bool)
      (same : after.holdsLocker = before.holdsLocker) : LockerTurn before locked after locked
  | take (before after : WorkerStage Body) (outside : before.holdsLocker = false)
      (inside : after.holdsLocker = true) : LockerTurn before false after true
  | give (before after : WorkerStage Body) (locked : Bool) (inside : before.holdsLocker = true)
      (outside : after.holdsLocker = false) : LockerTurn before locked after false

namespace Commander

variable {World Body : Type} {program : Program World Body}
  {commander next : Commander World Body}

theorem testHasCommands_locker (commander : Commander World Body) :
    commander.testHasCommands.stage.holdsLocker = false := by
  unfold testHasCommands
  cases commander.hasCommandsToExecute with
  | false => rfl
  | true => rfl

theorem loop_locker (commander : Commander World Body) (entry : Entry Body) :
    (commander.loop entry).commandLocked = commander.commandLocked ∧
      (commander.loop entry).stage.holdsLocker = false := by
  unfold loop
  split
  · exact ⟨rfl, rfl⟩
  · exact ⟨rfl, rfl⟩

theorem workerStep_locker {wakes : Option Nat}
    (stepped : commander.workerStep program wakes = some next) :
    LockerTurn commander.stage commander.commandLocked next.stage next.commandLocked := by
  unfold workerStep at stepped
  split at stepped
  case h_1 top =>
    split at stepped
    · cases stepped
    · rename_i free
      obtain rfl := Option.some.inj stepped
      rw [Bool.eq_false_iff.mpr free, top]
      exact .take .top .checking rfl rfl
  case h_2 checking =>
    split at stepped
    · obtain rfl := Option.some.inj stepped
      exact checking ▸ .give .checking .entering _ rfl rfl
    · obtain rfl := Option.some.inj stepped
      exact checking ▸ .keep .checking .popping _ rfl
  case h_3 entering =>
    obtain rfl := Option.some.inj stepped
    exact entering ▸ .keep .entering _ _ commander.testHasCommands_locker
  case h_4 falling =>
    obtain rfl := Option.some.inj stepped
    exact falling ▸ .keep .falling .blocked _ rfl
  case h_5 blocked => cases stepped
  case h_6 woken =>
    obtain rfl := Option.some.inj stepped
    exact woken ▸ .keep .woken _ _ commander.testHasCommands_locker
  case h_7 leaving =>
    split at stepped
    · obtain rfl := Option.some.inj stepped
      exact leaving ▸ .keep .leavingWait .relocking _ rfl
    · cases stepped
  case h_8 relocking =>
    split at stepped
    · cases stepped
    · rename_i free
      obtain rfl := Option.some.inj stepped
      rw [Bool.eq_false_iff.mpr free, relocking]
      exact .take .relocking .popping rfl rfl
  case h_9 popping =>
    split at stepped
    · obtain rfl := Option.some.inj stepped
      exact popping ▸ .give .popping .top _ rfl rfl
    · rename_i entry later queue
      obtain rfl := Option.some.inj stepped
      exact popping ▸ .give .popping (.executing entry) _ rfl rfl
  case h_10 entry executing =>
    obtain ⟨worker, rfl⟩ := execute_eq stepped
    exact executing ▸ .keep (.executing entry) (.finished entry) _ rfl
  case h_11 entry finished =>
    split at stepped
    · obtain rfl := Option.some.inj stepped
      exact finished ▸ .keep (.finished entry) (.notifying entry) _ rfl
    · obtain rfl := Option.some.inj stepped
      obtain ⟨same, outside⟩ := commander.loop_locker entry
      rw [same, finished]
      exact .keep _ _ _ outside
  case h_12 entry notifying =>
    obtain ⟨told, notified, rfl⟩ := Option.map_eq_some_iff.mp stepped
    obtain ⟨calls, rfl⟩ := notifyClient_calls notified
    obtain ⟨same, outside⟩ := Commander.loop_locker { commander with calls := calls } entry
    rw [same, notifying]
    exact .keep _ _ _ outside
  case h_13 stopped => cases stepped

/-! The locker is locked for exactly one holder. -/

theorem countP_set_holders {calls : List (Call Body)} {index : Nat} {call : Call Body}
    (new : Call Body) (found : calls[index]? = some call) :
    (calls.set index new).countP (·.stage.holdsLocker) + call.stage.holdsLocker.toNat =
      calls.countP (·.stage.holdsLocker) + new.stage.holdsLocker.toNat := by
  induction calls generalizing index with
  | nil => simp at found
  | cons first rest ih =>
      cases index with
      | zero =>
          obtain rfl : first = call := by simpa using found
          rw [List.set_cons_zero, List.countP_cons, List.countP_cons]
          cases first.stage.holdsLocker <;> cases new.stage.holdsLocker <;> simp
      | succ index =>
          have later := @ih index (by simpa using found)
          rw [List.set_cons_succ, List.countP_cons, List.countP_cons]
          omega

theorem LockerKept.moveCall (kept : commander.LockerKept) {index : Nat} {call new : Call Body}
    (found : commander.calls[index]? = some call)
    (calls : next.calls = commander.calls.set index new)
    (stage : next.stage.holdsLocker = commander.stage.holdsLocker)
    (balance : new.stage.holdsLocker.toNat + commander.commandLocked.toNat =
      call.stage.holdsLocker.toNat + next.commandLocked.toNat) : next.LockerKept := by
  have counted := countP_set_holders new found
  unfold LockerKept holders at kept ⊢
  rw [calls, stage]
  omega

theorem lockerKept_locker (kept : commander.LockerKept) {index : Nat} {call : Call Body}
    (found : commander.calls[index]? = some call)
    (move : commander.LockerMove index call next) : next.LockerKept := by
  cases move with
  | take arrived free =>
      refine kept.moveCall found rfl rfl ?_
      simp [arrived, free, CallStage.holdsLocker]
  | push locked =>
      refine kept.moveCall found rfl rfl ?_
      simp [Commander.push, locked, CallStage.holdsLocker]
  | notify pushed =>
      rcases commander.notifyWorker_cases with ⟨blocked, woken⟩ | ⟨-, same⟩
      · rw [woken]
        refine kept.moveCall found rfl ?_ ?_
        · rw [blocked]
          rfl
        · simp [restage, setCall, pushed, CallStage.holdsLocker]
      · rw [same]
        refine kept.moveCall found rfl rfl ?_
        simp [restage, setCall, pushed, CallStage.holdsLocker]
  | give notified =>
      have held : commander.commandLocked = true := by
        have counted := countP_set_holders { call with stage := .unlocked } found
        unfold LockerKept holders at kept
        rw [notified] at counted
        cases locked : commander.commandLocked with
        | true => rfl
        | false =>
            simp only [locked, CallStage.holdsLocker, Bool.toNat_true, Bool.toNat_false] at *
            omega
      refine kept.moveCall found rfl rfl ?_
      simp [notified, held, CallStage.holdsLocker]
  | wait stage synchronousLocked before after joined =>
      refine kept.moveCall found rfl rfl ?_
      simp [restage, setCall, before.2, after.2]

theorem lockerKept_turn (kept : commander.LockerKept)
    (turn : LockerTurn commander.stage commander.commandLocked next.stage next.commandLocked)
    (calls : next.calls.countP (·.stage.holdsLocker) =
      commander.calls.countP (·.stage.holdsLocker)) : next.LockerKept := by
  unfold LockerKept holders at kept ⊢
  rw [calls]
  revert kept turn
  generalize commander.stage = before, next.stage = after,
    commander.commandLocked = locked, next.commandLocked = relocked
  intro kept turn
  cases turn with
  | keep _ _ same => rw [same, kept]
  | take _ outside inside =>
      rw [outside] at kept
      rw [inside]
      simpa using kept
  | give _ _ inside outside =>
      rw [inside] at kept
      rw [outside]
      cases locked with
      | true => simpa using kept
      | false => simp at kept

theorem workerStep_holders {wakes : Option Nat}
    (stepped : commander.workerStep program wakes = some next) :
    next.calls.countP (·.stage.holdsLocker) =
      commander.calls.countP (·.stage.holdsLocker) := by
  cases workerStep_move stepped with
  | notify entry wakes told notifying notified =>
      obtain ⟨stage, same, -⟩ := told.loop_stage entry
      rw [same]
      rcases notifyClient_cases notified with ⟨rfl, -⟩ | ⟨index, call, found, blocked, rfl⟩
      · rfl
      · have counted := countP_set_holders { call with stage := .woken } found
        rw [blocked] at counted
        simpa [restage, setCall, CallStage.holdsLocker] using counted
  | execute entry next executing executed =>
      obtain ⟨worker, rfl⟩ := execute_eq executed
      rfl
  | finish entry finished asynchronous =>
      obtain ⟨stage, same, -⟩ := commander.loop_stage entry
      rw [same]
  | _ => rfl

theorem lockerKept_step (commander : Commander World Body) (event : Event Body)
    (kept : commander.LockerKept) : ∀ next ∈ step program commander event, next.LockerKept := by
  intro next stepped
  cases event with
  | arrive request =>
      obtain rfl := Option.some.inj stepped
      simpa [LockerKept, holders, CallStage.holdsLocker] using kept
  | client index =>
      obtain ⟨call, found, move⟩ := clientStep_locker stepped
      exact lockerKept_locker kept found move
  | worker wakes =>
      exact lockerKept_turn kept (workerStep_locker stepped) (workerStep_holders stepped)
  | wakeWorker =>
      obtain ⟨blocked, rfl⟩ := wakeWorker_step stepped
      simpa [LockerKept, holders, blocked, WorkerStage.holdsLocker] using kept
  | wakeClient index =>
      obtain ⟨call, found, blocked, rfl⟩ := wakeClient_step stepped
      refine kept.moveCall found rfl rfl ?_
      simp [restage, setCall, blocked, CallStage.holdsLocker]

/-! What the holder may do, and that it gives the locker back. -/

def Holds (commander : Commander World Body) : Event Body → Prop
  | .client index => ∃ call ∈ commander.calls[index]?, call.stage.holdsLocker = true
  | .worker _ => commander.stage.holdsLocker = true
  | _ => False

/-- The holder frees the locker within three steps, whatever the other threads wait for. -/
def Releases (program : Program World Body) (commander : Commander World Body) : Prop :=
  ∃ (event : Event Body) (count : Nat) (freed : Commander World Body),
    commander.Holds event ∧ count ≤ 3 ∧
      Runs.final (step program) commander (List.replicate count event) = some freed ∧
      freed.commandLocked = false

theorem locker_queue (event : Event Body) (stepped : step program commander event = some next)
    (changed : next.todoBuffer ≠ commander.todoBuffer ∨
      next.hasCommandsToExecute ≠ commander.hasCommandsToExecute) : commander.Holds event := by
  cases event with
  | arrive request =>
      obtain rfl := Option.some.inj stepped
      exact absurd changed (by simp)
  | client index =>
      obtain ⟨call, found, move⟩ := clientStep_locker stepped
      cases move with
      | push locked => exact ⟨call, found, by rw [locked]; rfl⟩
      | notify pushed => exact ⟨call, found, by rw [pushed]; rfl⟩
      | take arrived free => exact absurd changed (by simp [restage, setCall])
      | give notified => exact absurd changed (by simp [restage, setCall])
      | wait stage synchronousLocked before after joined =>
          exact absurd changed (by simp [restage, setCall])
  | worker wakes =>
      cases workerStep_move stepped with
      | rest checking empty =>
          change commander.stage.holdsLocker = true
          rw [checking]
          rfl
      | pop entry later popping queue =>
          change commander.stage.holdsLocker = true
          rw [popping]
          rfl
      | execute entry next executing executed =>
          obtain ⟨worker, rfl⟩ := execute_eq executed
          exact absurd changed (by simp)
      | countOff entry finished synchronous => exact absurd changed (by simp)
      | finish entry finished asynchronous =>
          obtain ⟨stage, same, -⟩ := commander.loop_stage entry
          rw [same] at changed
          exact absurd changed (by simp)
      | notify entry wakes told notifying notified =>
          obtain ⟨calls, rfl⟩ := notifyClient_calls notified
          obtain ⟨stage, same, -⟩ :=
            Commander.loop_stage { commander with calls := calls } entry
          rw [same] at changed
          exact absurd changed (by simp)
      | turn stage commandLocked hasCommandsLocked turns => exact absurd changed (by simp)
  | wakeWorker =>
      obtain ⟨-, rfl⟩ := wakeWorker_step stepped
      exact absurd changed (by simp)
  | wakeClient index =>
      obtain ⟨call, -, -, rfl⟩ := wakeClient_step stepped
      exact absurd changed (by simp [restage, setCall])

/-- One step of the call whose number is `index`, once it is known where the call stands. -/
theorem final_client {index count : Nat} {freed : Commander World Body}
    (stepped : commander.clientStep index = some next)
    (later : Runs.final (step program) next (List.replicate count (.client index)) = some freed) :
    Runs.final (step program) commander (List.replicate (count + 1) (.client index)) =
      some freed := by
  rw [List.replicate_succ, Runs.final_cons]
  have taken : step program commander (.client index) = some next := stepped
  rw [taken]
  exact later

theorem clientStep_notified {index : Nat} {call : Call Body}
    (found : commander.calls[index]? = some call) (notified : call.stage = .notified) :
    commander.clientStep index =
      some { commander.restage index call .unlocked with commandLocked := false } := by
  simp only [clientStep, found, notified]

theorem clientStep_pushed {index : Nat} {call : Call Body}
    (found : commander.calls[index]? = some call) (pushed : call.stage = .pushed) :
    commander.clientStep index = some (commander.notifyWorker.restage index call .notified) := by
  simp only [clientStep, found, pushed]

theorem clientStep_locked {index : Nat} {call : Call Body}
    (found : commander.calls[index]? = some call) (locked : call.stage = .locked) :
    commander.clientStep index = some (commander.push index call) := by
  simp only [clientStep, found, locked]

theorem getElem?_set_found {calls : List (Call Body)} {index : Nat} {call : Call Body}
    (found : calls[index]? = some call) (new : Call Body) :
    (calls.set index new)[index]? = some new := by
  obtain ⟨bound, -⟩ := List.getElem?_eq_some_iff.mp found
  simp [bound]

theorem notifyWorker_calls (commander : Commander World Body) :
    commander.notifyWorker.calls = commander.calls := by
  rcases commander.notifyWorker_cases with ⟨-, woken⟩ | ⟨-, same⟩
  · rw [woken]
  · rw [same]

theorem releases_notified {index : Nat} {call : Call Body}
    (found : commander.calls[index]? = some call) (notified : call.stage = .notified) :
    ∃ freed, Runs.final (step program) commander (List.replicate 1 (.client index)) =
      some freed ∧ freed.commandLocked = false :=
  ⟨_, final_client (clientStep_notified found notified) rfl, rfl⟩

theorem releases_pushed {index : Nat} {call : Call Body}
    (found : commander.calls[index]? = some call) (pushed : call.stage = .pushed) :
    ∃ freed, Runs.final (step program) commander (List.replicate 2 (.client index)) =
      some freed ∧ freed.commandLocked = false := by
  have there : (commander.notifyWorker.restage index call .notified).calls[index]? =
      some { call with stage := .notified } := by
    simp only [restage, setCall, notifyWorker_calls]
    exact getElem?_set_found found _
  obtain ⟨freed, reached, free⟩ := releases_notified there rfl
  exact ⟨freed, final_client (clientStep_pushed found pushed) reached, free⟩

theorem releases_locked {index : Nat} {call : Call Body}
    (found : commander.calls[index]? = some call) (locked : call.stage = .locked) :
    ∃ freed, Runs.final (step program) commander (List.replicate 3 (.client index)) =
      some freed ∧ freed.commandLocked = false := by
  have there : (commander.push index call).calls[index]? =
      some ⟨call.request, .pushed, call.request.awaits
        (Entry.number commander.enqueued.length call.request.items)⟩ :=
    getElem?_set_found found _
  obtain ⟨freed, reached, free⟩ := releases_pushed there rfl
  exact ⟨freed, final_client (clientStep_locked found locked) reached, free⟩

theorem releases_client {index : Nat} {call : Call Body}
    (found : commander.calls[index]? = some call) (holds : call.stage.holdsLocker = true) :
    commander.Releases program := by
  have holder : commander.Holds (.client index) := ⟨call, found, holds⟩
  cases stage : call.stage with
  | locked =>
      obtain ⟨freed, reached, free⟩ := releases_locked found stage
      exact ⟨.client index, 3, freed, holder, by omega, reached, free⟩
  | pushed =>
      obtain ⟨freed, reached, free⟩ := releases_pushed found stage
      exact ⟨.client index, 2, freed, holder, by omega, reached, free⟩
  | notified =>
      obtain ⟨freed, reached, free⟩ := releases_notified found stage
      exact ⟨.client index, 1, freed, holder, by omega, reached, free⟩
  | _ => simp [stage, CallStage.holdsLocker] at holds

theorem releases_worker (holds : commander.stage.holdsLocker = true) :
    commander.Releases program := by
  have holder : commander.Holds (.worker none) := holds
  cases stage : commander.stage with
  | popping =>
      cases queue : commander.todoBuffer with
      | nil =>
          refine ⟨.worker none, 1, { commander with commandLocked := false, stage := .top },
            holder, by omega, ?_, rfl⟩
          simp [Runs.final, step, workerStep, stage, queue]
      | cons entry later =>
          refine ⟨.worker none, 1, { commander with
            todoBuffer := later, commandLocked := false, stage := .executing entry },
            holder, by omega, ?_, rfl⟩
          simp [Runs.final, step, workerStep, stage, queue]
  | checking =>
      cases queue : commander.todoBuffer with
      | nil =>
          refine ⟨.worker none, 1, { commander with
            hasCommandsToExecute := false, commandLocked := false, stage := .entering },
            holder, by omega, ?_, rfl⟩
          simp [Runs.final, step, workerStep, stage, queue]
      | cons entry later =>
          refine ⟨.worker none, 2, { commander with
            todoBuffer := later, commandLocked := false, stage := .executing entry },
            holder, by omega, ?_, rfl⟩
          simp [Runs.final, List.replicate, step, workerStep, stage, queue]
  | _ => simp [stage, WorkerStage.holdsLocker] at holds

theorem releases_of_locked (kept : commander.LockerKept) (locked : commander.commandLocked = true) :
    commander.Releases program := by
  cases holds : commander.stage.holdsLocker with
  | true => exact releases_worker holds
  | false =>
      unfold LockerKept holders at kept
      rw [holds, locked, Bool.toNat_false, Bool.toNat_true] at kept
      have inside : 0 < commander.calls.countP (·.stage.holdsLocker) := by omega
      obtain ⟨call, member, held⟩ := List.countP_pos_iff.mp inside
      obtain ⟨index, found⟩ := List.mem_iff_getElem?.mp member
      exact releases_client found held

/-- At most one thread is inside the locker, it alone touches the queue, and no order of steps
leaves the locker held for good. -/
theorem locker_exclusive (program : Program World Body) (world : World)
    (events : List (Event Body)) (commander : Commander World Body)
    (reached : Runs.final (step program) (start world) events = some commander) :
    commander.holders = commander.commandLocked.toNat ∧
      (commander.commandLocked = true → commander.Releases program) ∧
      ∀ event, ∀ next ∈ step program commander event,
        (next.todoBuffer ≠ commander.todoBuffer ∨
          next.hasCommandsToExecute ≠ commander.hasCommandsToExecute) →
        commander.Holds event := by
  have kept : commander.LockerKept :=
    Runs.final_of_kept lockerKept_step (start_lockerKept world) reached
  refine ⟨kept, releases_of_locked kept, ?_⟩
  intro event next stepped changed
  exact locker_queue event stepped changed

theorem locker_exclusive_afterUndo :
    ∃ commander : Commander Unit Unit,
      Runs.final (step .idle) (start ()) [.arrive (.undo 1), .client 0, .worker none] = none ∧
      Runs.final (step .idle) (start ()) [.arrive (.undo 1), .client 0] = some commander ∧
      commander.holders = 1 := by
  refine ⟨_, rfl, rfl, ?_⟩
  exact (locker_exclusive .idle () [.arrive (.undo 1), .client 0] _ rfl).1

end Commander

end LeanMiniViews
