import LeanMiniViews.CommandQueue
import LeanMiniViews.LockDiscipline

/-!
`End`: the kill command goes through the queue like any other, so what was queued before it is
executed first, and nothing is executed after it.
-/

namespace LeanMiniViews

def Item.isKill {Body : Type} : Item Body → Bool
  | killCommand => true
  | _ => false

namespace WorkerStage

variable {Body : Type}

def isKilled : WorkerStage Body → Bool
  | finished entry => entry.item.isKill
  | notifying entry => entry.item.isKill
  | stopped => true
  | _ => false

theorem eq_stopped {stage : WorkerStage Body} (stop : stage.isStopped = true) :
    stage = .stopped := by
  cases stage with
  | stopped => rfl
  | _ => cases stop

end WorkerStage

namespace Commander

variable {World Body : Type}

structure Ending (commander : Commander World Body) : Prop where
  running : commander.stage.isKilled = false →
    ∀ result ∈ commander.performed, result.2 ≠ none
  killed : commander.stage.isKilled = true → ∃ before serial,
    commander.performed = before ++ [(serial, none)] ∧ ∀ result ∈ before, result.2 ≠ none
  joined : ∀ call ∈ commander.calls, call.request.isTerminate = true →
    call.stage = .returned → commander.stage.isStopped = true

theorem start_ending (world : World) : (start world : Commander World Body).Ending :=
  ⟨by simp [start], by simp [start, WorkerStage.isKilled], by simp [start]⟩

variable {program : Program World Body} {commander next : Commander World Body}

theorem Ending.move (ending : commander.Ending) (performed : next.performed = commander.performed)
    (killed : next.stage.isKilled = commander.stage.isKilled)
    (joined : ∀ call ∈ next.calls, call.request.isTerminate = true → call.stage = .returned →
      next.stage.isStopped = true) : next.Ending := by
  refine ⟨?_, ?_, joined⟩
  · rw [killed, performed]
    exact ending.running
  · rw [killed, performed]
    exact ending.killed

/-- The worker moves on from one stage to another and the calls stay as they are. -/
theorem Ending.moveStage (ending : commander.Ending)
    (performed : next.performed = commander.performed) (calls : next.calls = commander.calls)
    (killed : next.stage.isKilled = commander.stage.isKilled)
    (stays : commander.stage.isStopped = false) : next.Ending := by
  apply ending.move performed killed
  intro call member terminates returned
  have stopped := ending.joined call (calls ▸ member) terminates returned
  rw [stays] at stopped
  cases stopped

theorem Ending.moveCall (ending : commander.Ending) {index : Nat} {new : Call Body}
    (performed : next.performed = commander.performed)
    (calls : next.calls = commander.calls.set index new)
    (stage : next.stage = commander.stage ∨
      (commander.stage = .blocked ∧ next.stage = .woken))
    (joined : new.request.isTerminate = true → new.stage = .returned →
      commander.stage.isStopped = true) : next.Ending := by
  have killed : next.stage.isKilled = commander.stage.isKilled := by
    rcases stage with same | ⟨blocked, woken⟩
    · rw [same]
    · rw [blocked, woken]
      rfl
  apply ending.move performed killed
  rw [calls]
  have stops (stopped : commander.stage.isStopped = true) : next.stage.isStopped = true := by
    rcases stage with same | ⟨blocked, -⟩
    · rw [same]
      exact stopped
    · rw [blocked] at stopped
      cases stopped
  intro call member terminates returned
  rcases List.mem_or_eq_of_mem_set member with before | rfl
  · exact stops (ending.joined call before terminates returned)
  · exact stops (joined terminates returned)

theorem ending_locker (ending : commander.Ending) {index : Nat} {call : Call Body}
    (move : commander.LockerMove index call next) : next.Ending := by
  cases move with
  | take arrived free => exact ending.moveCall rfl rfl (Or.inl rfl) (by simp)
  | push locked => exact ending.moveCall rfl rfl (Or.inl rfl) (by simp)
  | notify pushed =>
      rcases commander.notifyWorker_cases with ⟨blocked, woken⟩ | ⟨-, same⟩
      · rw [woken]
        exact ending.moveCall rfl rfl (Or.inr ⟨blocked, rfl⟩) (by simp)
      · rw [same]
        exact ending.moveCall rfl rfl (Or.inl rfl) (by simp)
  | give notified => exact ending.moveCall rfl rfl (Or.inl rfl) (by simp)
  | wait stage synchronousLocked before after joined =>
      refine ending.moveCall rfl rfl (Or.inl rfl) ?_
      intro terminates returned
      exact joined returned terminates

/-! The worker. -/

theorem loop_killed (commander : Commander World Body) (entry : Entry Body) :
    (commander.loop entry).stage.isKilled = entry.item.isKill := by
  obtain ⟨serial, item⟩ := entry
  cases item <;> rfl

theorem testHasCommands_killed (commander : Commander World Body) :
    commander.testHasCommands.stage.isKilled = false := by
  unfold testHasCommands
  cases commander.hasCommandsToExecute with
  | false => rfl
  | true => rfl

theorem workerStep_killed {wakes : Option Nat}
    (stepped : commander.workerStep program wakes = some next)
    (free : ∀ entry, commander.stage ≠ .executing entry) :
    next.stage.isKilled = commander.stage.isKilled := by
  unfold workerStep at stepped
  split at stepped
  case h_1 top =>
    split at stepped
    · cases stepped
    · obtain rfl := Option.some.inj stepped
      rw [top]
      rfl
  case h_2 checking =>
    rw [checking]
    split at stepped
    · obtain rfl := Option.some.inj stepped
      rfl
    · obtain rfl := Option.some.inj stepped
      rfl
  case h_3 entering =>
    obtain rfl := Option.some.inj stepped
    rw [entering, testHasCommands_killed]
    rfl
  case h_4 falling =>
    obtain rfl := Option.some.inj stepped
    rw [falling]
    rfl
  case h_5 blocked => cases stepped
  case h_6 woken =>
    obtain rfl := Option.some.inj stepped
    rw [woken]
    exact commander.testHasCommands_killed
  case h_7 leaving =>
    split at stepped
    · obtain rfl := Option.some.inj stepped
      rw [leaving]
      rfl
    · cases stepped
  case h_8 relocking =>
    split at stepped
    · cases stepped
    · obtain rfl := Option.some.inj stepped
      rw [relocking]
      rfl
  case h_9 popping =>
    rw [popping]
    split at stepped
    · obtain rfl := Option.some.inj stepped
      rfl
    · obtain rfl := Option.some.inj stepped
      rfl
  case h_10 entry executing => exact absurd executing (free entry)
  case h_11 entry finished =>
    rw [finished]
    split at stepped
    · obtain rfl := Option.some.inj stepped
      rfl
    · obtain rfl := Option.some.inj stepped
      exact commander.loop_killed entry
  case h_12 entry notifying =>
    obtain ⟨told, -, rfl⟩ := Option.map_eq_some_iff.mp stepped
    rw [notifying]
    exact told.loop_killed entry
  case h_13 stopped => cases stepped

theorem workerStep_running {wakes : Option Nat}
    (stepped : commander.workerStep program wakes = some next) :
    commander.stage.isStopped = false := by
  cases stage : commander.stage with
  | stopped => simp [workerStep, stage] at stepped
  | _ => rfl

theorem workOf_none_iff (commander : Commander World Body) (item : Item Body) :
    commander.workOf item = none ↔ item.isKill = true := by
  cases item with
  | killCommand => exact iff_of_true rfl rfl
  | _ => exact iff_of_false (by simp [workOf]) (by simp [Item.isKill])

theorem Ending.execute (ending : commander.Ending) {entry : Entry Body}
    (executing : commander.stage = .executing entry)
    (executed : commander.execute program entry = some next) : next.Ending := by
  have running : ∀ result ∈ commander.performed, result.2 ≠ none := by
    apply ending.running
    rw [executing]
    rfl
  obtain ⟨worker, rfl⟩ := execute_eq executed
  refine ⟨?_, ?_, ?_⟩
  · intro alive result member
    rcases List.mem_append.mp member with before | new
    · exact running result before
    · rw [List.mem_singleton.mp new, ne_eq, workOf_none_iff]
      exact Bool.eq_false_iff.mp alive
  · intro killed
    refine ⟨commander.performed, entry.serial, ?_, running⟩
    rw [(commander.workOf_none_iff entry.item).mpr killed]
  · intro call member terminates returned
    have stopped := ending.joined call member terminates returned
    rw [executing] at stopped
    cases stopped

theorem ending_workerStep (ending : commander.Ending) {wakes : Option Nat}
    (stepped : commander.workerStep program wakes = some next)
    (free : ∀ entry, commander.stage ≠ .executing entry) : next.Ending := by
  have killed := workerStep_killed stepped free
  have stays := workerStep_running stepped
  cases workerStep_move stepped with
  | execute entry next executing executed => exact absurd executing (free entry)
  | finish entry finished asynchronous =>
      obtain ⟨stage, same, -⟩ := commander.loop_stage entry
      rw [same] at killed ⊢
      exact ending.moveStage rfl rfl killed stays
  | notify entry wakes told notifying notified =>
      have woken : told.Ending ∧ told.stage = commander.stage := by
        rcases notifyClient_cases notified with ⟨rfl, -⟩ | ⟨index, call, -, -, rfl⟩
        · exact ⟨ending, rfl⟩
        · exact ⟨ending.moveCall rfl rfl (Or.inl rfl) (by simp), rfl⟩
      obtain ⟨stage, same, -⟩ := told.loop_stage entry
      rw [same] at killed ⊢
      refine woken.1.moveStage rfl rfl ?_ ?_
      · rw [woken.2]
        exact killed
      · rw [woken.2]
        exact stays
  | _ => exact ending.moveStage rfl rfl killed stays

theorem ending_step (commander : Commander World Body) (event : Event Body)
    (ending : commander.Ending) : ∀ next ∈ step program commander event, next.Ending := by
  intro next stepped
  cases event with
  | arrive request =>
      obtain rfl := Option.some.inj stepped
      refine ending.move rfl rfl ?_
      intro call member terminates returned
      rcases List.mem_append.mp member with before | new
      · exact ending.joined call before terminates returned
      · rw [List.mem_singleton.mp new] at returned
        cases returned
  | client index =>
      obtain ⟨call, -, move⟩ := clientStep_locker stepped
      exact ending_locker ending move
  | worker wakes =>
      by_cases busy : ∃ entry, commander.stage = .executing entry
      · obtain ⟨entry, executing⟩ := busy
        have executed : commander.execute program entry = some next := by
          simpa [step, workerStep, executing] using stepped
        exact ending.execute executing executed
      · exact ending_workerStep ending stepped fun entry same => busy ⟨entry, same⟩
  | wakeWorker =>
      obtain ⟨blocked, rfl⟩ := wakeWorker_step stepped
      refine ending.moveStage rfl rfl ?_ ?_
      · rw [blocked]
        rfl
      · rw [blocked]
        rfl
  | wakeClient index =>
      obtain ⟨call, -, -, rfl⟩ := wakeClient_step stepped
      exact ending.moveCall rfl rfl (Or.inl rfl) (by simp)

/-! After the end. -/

/-- The worker is gone, and with it everything it would still have done. -/
def Halted (performed : List (Nat × Option (Work Body))) (worker : Worker World Body)
    (commander : Commander World Body) : Prop :=
  commander.stage = .stopped ∧ commander.performed = performed ∧ commander.worker = worker

theorem halted_step {performed : List (Nat × Option (Work Body))} {worker : Worker World Body}
    (commander : Commander World Body) (event : Event Body)
    (halted : Halted performed worker commander) :
    ∀ next ∈ step program commander event, Halted performed worker next := by
  intro next stepped
  obtain ⟨stopped, same, still⟩ := halted
  have stays : next.stage = .stopped := by
    cases event with
    | worker wakes => simp [step, workerStep, stopped] at stepped
    | _ =>
        rcases (step_stage stepped (by simp)).2 with kept | ⟨blocked, -⟩
        · exact kept.trans stopped
        · rw [stopped] at blocked
          cases blocked
  rcases step_idle_or event stepped with idle | ⟨index, call, rfl⟩ | ⟨entry, executing, -⟩
  · exact ⟨stays, idle.performed.trans same, idle.worker.trans still⟩
  · exact ⟨stays, same, still⟩
  · rw [stopped] at executing
    cases executing

theorem isKill_of_executes {item : Item Body} (executes : item.Executes none) :
    item = .killCommand := by
  cases item with
  | killCommand => rfl
  | _ => exact executes.elim

theorem not_isKill_of_executes {item : Item Body} {work : Option (Work Body)}
    (executes : item.Executes work) (some : work ≠ none) : item.isKill = false := by
  cases item with
  | killCommand =>
      cases work with
      | none => exact absurd rfl some
      | some executed => exact executes.elim
  | _ => rfl

theorem executes_concat {executed : List (Entry Body)} {before : List (Nat × Option (Work Body))}
    {result : Nat × Option (Work Body)}
    (executes : List.Forall₂ Entry.Executes executed (before ++ [result])) :
    ∃ front entry, executed = front ++ [entry] ∧ entry.Executes result ∧
      List.Forall₂ Entry.Executes front before := by
  induction before generalizing executed with
  | nil =>
      cases executes with
      | cons here rest =>
          cases rest
          exact ⟨[], _, rfl, here, .nil⟩
  | cons first rest ih =>
      cases executes with
      | cons here later =>
          obtain ⟨front, entry, rfl, last, earlier⟩ := ih later
          exact ⟨_ :: front, entry, rfl, last, .cons here earlier⟩

theorem executes_of_mem {front : List (Entry Body)} {before : List (Nat × Option (Work Body))}
    (executes : List.Forall₂ Entry.Executes front before) {entry : Entry Body}
    (member : entry ∈ front) : ∃ result ∈ before, entry.Executes result := by
  induction executes with
  | nil => cases member
  | cons here later ih =>
      cases member with
      | head => exact ⟨_, List.mem_cons_self, here⟩
      | tail _ member =>
          obtain ⟨result, within, execution⟩ := ih member
          exact ⟨result, List.mem_cons_of_mem _ within, execution⟩

/-- Once a call of `End` has returned, exactly the items queued before the first kill command
have been executed, and that stays so whatever is still queued. -/
theorem terminate_completes (program : Program World Body) (world : World)
    (events later : List (Event Body)) (commander last : Commander World Body)
    (reached : Runs.final (step program) (start world) events = some commander)
    (continued : Runs.final (step program) commander later = some last)
    (call : Call Body) (member : call ∈ commander.calls)
    (terminates : call.request.isTerminate = true) (returned : call.stage = .returned) :
    last.performed = commander.performed ∧ last.worker = commander.worker ∧
      ∃ front serial rest, commander.enqueued = front ++ ⟨serial, .killCommand⟩ :: rest ∧
        (∀ entry ∈ front, entry.item.isKill = false) ∧
        List.Forall₂ Entry.Executes (front ++ [⟨serial, .killCommand⟩]) last.performed := by
  have ending : commander.Ending := Runs.final_of_kept ending_step (start_ending world) reached
  have inOrder : commander.InOrder := by
    have initial : (start world : Commander World Body).Serial program world :=
      ⟨start_inOrder world, start_sequential program world⟩
    exact (Runs.final_of_kept (serial_step world) initial reached).inOrder
  have stopped := WorkerStage.eq_stopped (ending.joined call member terminates returned)
  obtain ⟨-, performed, worker⟩ : Halted commander.performed commander.worker last :=
    Runs.final_of_kept halted_step ⟨stopped, rfl, rfl⟩ continued
  refine ⟨performed, worker, ?_⟩
  obtain ⟨before, serial, done, some⟩ := ending.killed (by rw [stopped]; rfl)
  obtain ⟨executed, queue, executes⟩ := inOrder
  rw [performed]
  obtain ⟨front, entry, rfl, kill, earlier⟩ := executes_concat (done ▸ executes)
  obtain ⟨number, item⟩ := entry
  obtain ⟨rfl, killed⟩ : serial = number ∧ item.Executes none := kill
  obtain rfl := isKill_of_executes killed
  refine ⟨front, serial, commander.waiting, ?_, ?_, executes⟩
  · rw [queue, List.append_assoc]
    rfl
  · intro entry there
    obtain ⟨result, within, execution⟩ := executes_of_mem earlier there
    exact not_isKill_of_executes execution.2 (some result within)

theorem terminate_completes_redoLeft :
    ∃ commander last : Commander Unit Unit,
      (commander.performed.map Prod.fst = [0, 1] ∧ last.todoBuffer.map Entry.serial = [2]) ∧
      last.performed = commander.performed ∧ last.worker = commander.worker ∧
      ∃ front serial rest, commander.enqueued = front ++ ⟨serial, .killCommand⟩ :: rest ∧
        (∀ entry ∈ front, entry.item.isKill = false) ∧
        List.Forall₂ Entry.Executes (front ++ [⟨serial, .killCommand⟩]) last.performed := by
  refine ⟨_, _, ⟨?_, ?_⟩, terminate_completes .idle ()
    ([.arrive (.undo 1), .arrive .terminate] ++ List.replicate 4 (.client 0) ++
      List.replicate 4 (.client 1) ++ List.replicate 12 (.worker none) ++
      List.replicate 2 (.client 1))
    (.arrive (.redo 1) :: List.replicate 4 (.client 2)) _ _ rfl rfl
    ⟨.terminate, .returned, [1]⟩ (.tail _ (.head _)) rfl rfl⟩
  · rfl
  · rfl

end Commander

end LeanMiniViews
