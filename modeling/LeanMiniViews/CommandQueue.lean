import Mathlib.Data.List.Forall2
import LeanMiniViews.CommandLocker
import LeanMiniViews.RequestTypes

/-!
Every interleaving of calls and worker is a serial execution: the calls are queued whole, one
after the other, and the worker executes what was queued, in that order and once each.
-/

namespace LeanMiniViews

/-- The worker executes this for the item. The type of an undo or a redo is left open. -/
def Item.Executes {Body : Type} : Item Body → Option (Work Body) → Prop
  | clientCommand command, some (.doCommand executed) => executed = command
  | undoCommand _, some (.tryUndo _) => True
  | redoCommand _, some (.tryRedo _) => True
  | killCommand, none => True
  | _, _ => False

def Entry.Executes {Body : Type} (entry : Entry Body) (result : Nat × Option (Work Body)) :
    Prop :=
  result.1 = entry.serial ∧ entry.item.Executes result.2

theorem Entry.number_append {Body : Type} (serial : Nat) (first second : List (Item Body)) :
    Entry.number serial (first ++ second) =
      Entry.number serial first ++ Entry.number (serial + first.length) second := by
  induction first generalizing serial with
  | nil => rfl
  | cons item rest ih =>
      rw [List.cons_append, Entry.number, Entry.number, ih, List.length_cons, List.cons_append]
      congr 3
      omega

theorem Entry.number_length {Body : Type} (serial : Nat) (items : List (Item Body)) :
    (Entry.number serial items).length = items.length := by
  induction items generalizing serial with
  | nil => rfl
  | cons item rest ih => rw [Entry.number, List.length_cons, List.length_cons, ih]

namespace Commander

variable {World Body : Type}

def itemsOf (commander : Commander World Body) (index : Nat) : List (Item Body) :=
  (commander.calls[index]?.map fun call => call.request.items).getD []

/-- The queue so far holds the items of the calls that have pushed, call by call in `order`. -/
structure Queued (commander : Commander World Body) (order : List Nat) : Prop where
  once : order.Nodup
  callers : ∀ index, index ∈ order ↔
    ∃ call ∈ commander.calls[index]?, call.stage.hasPushed = true
  queue : commander.enqueued = Entry.number 0 (order.flatMap commander.itemsOf)

/-- What was executed is the front of the queue, and what waits is the rest of it. -/
def InOrder (commander : Commander World Body) : Prop :=
  ∃ front, commander.enqueued = front ++ commander.waiting ∧
    List.Forall₂ Entry.Executes front commander.performed

/-- The worker is where it would be had it executed the queue with no client around. -/
def Sequential (program : Program World Body) (world : World)
    (commander : Commander World Body) : Prop :=
  Runs.final (Worker.perform program) (.start world) (commander.performed.filterMap Prod.snd) =
    some commander.worker

variable {program : Program World Body} {commander next : Commander World Body}

theorem start_queued (world : World) : (start world : Commander World Body).Queued [] :=
  ⟨List.nodup_nil, by simp [start], rfl⟩

theorem start_inOrder (world : World) : (start world : Commander World Body).InOrder :=
  ⟨[], rfl, .nil⟩

theorem start_sequential (program : Program World Body) (world : World) :
    (start world : Commander World Body).Sequential program world := rfl

/-! The order of the calls. -/

theorem itemsOf_set {index : Nat} {call : Call Body} (new : Call Body)
    (found : commander.calls[index]? = some call) (request : new.request = call.request)
    (calls : next.calls = commander.calls.set index new) : next.itemsOf = commander.itemsOf := by
  funext other
  unfold itemsOf
  rw [calls, List.getElem?_set]
  split
  · rename_i same
    obtain ⟨bound, -⟩ := List.getElem?_eq_some_iff.mp found
    rw [if_pos bound, ← same, found, Option.map_some, Option.map_some, request]
  · rfl

theorem callers_set {calls : List (Call Body)} {index : Nat} {call new : Call Body}
    (found : calls[index]? = some call) (other : Nat) :
    (∃ caller ∈ (calls.set index new)[other]?, caller.stage.hasPushed = true) ↔
      if other = index then new.stage.hasPushed = true
      else ∃ caller ∈ calls[other]?, caller.stage.hasPushed = true := by
  split
  · rename_i same
    subst same
    rw [getElem?_set_found found]
    simp
  · rename_i different
    rw [List.getElem?_set_ne (Ne.symm different)]

theorem Queued.moveCall {order : List Nat} (queued : commander.Queued order) {index : Nat}
    {call new : Call Body} (found : commander.calls[index]? = some call)
    (calls : next.calls = commander.calls.set index new)
    (request : new.request = call.request)
    (stage : new.stage.hasPushed = call.stage.hasPushed)
    (enqueued : next.enqueued = commander.enqueued) : next.Queued order := by
  refine ⟨queued.once, ?_, ?_⟩
  · intro other
    rw [queued.callers, calls, callers_set found]
    split
    · rename_i same
      rw [same, found, stage]
      simp
    · rfl
  · rw [enqueued, itemsOf_set new found request calls]
    exact queued.queue

theorem Queued.push {order : List Nat} (queued : commander.Queued order) {index : Nat}
    {call : Call Body} (found : commander.calls[index]? = some call)
    (locked : call.stage = .locked) : (commander.push index call).Queued (order ++ [index]) := by
  have absent : index ∉ order := by
    rw [queued.callers]
    rintro ⟨caller, there, pushed⟩
    obtain rfl := Option.some.inj (found.symm.trans there)
    rw [locked] at pushed
    cases pushed
  have items : (commander.push index call).itemsOf = commander.itemsOf :=
    itemsOf_set ⟨call.request, .pushed, call.request.awaits
      (Entry.number commander.enqueued.length call.request.items)⟩ found rfl rfl
  refine ⟨?_, ?_, ?_⟩
  · rw [List.nodup_append]
    refine ⟨queued.once, by simp, ?_⟩
    intro first member second last equal
    rw [List.mem_singleton] at last
    exact absent (last ▸ equal ▸ member)
  · intro other
    rw [List.mem_append, List.mem_singleton]
    change _ ↔ ∃ caller ∈ (commander.calls.set index _)[other]?, _
    rw [callers_set found, queued.callers]
    split
    · rename_i same
      exact iff_of_true (Or.inr same) rfl
    · rename_i different
      exact ⟨fun either => either.resolve_right different, Or.inl⟩
  · rw [items, List.flatMap_append, List.flatMap_singleton, Entry.number_append]
    change commander.enqueued ++ Entry.number commander.enqueued.length call.request.items = _
    have here : commander.itemsOf index = call.request.items := by simp [itemsOf, found]
    rw [here, queued.queue, Entry.number_length, Nat.zero_add]

theorem queued_locker {order : List Nat} (queued : commander.Queued order) {index : Nat}
    {call : Call Body} (found : commander.calls[index]? = some call)
    (move : commander.LockerMove index call next) : ∃ more, next.Queued (order ++ more) := by
  have kept {new : Call Body} (calls : next.calls = commander.calls.set index new)
      (request : new.request = call.request)
      (stage : new.stage.hasPushed = call.stage.hasPushed)
      (enqueued : next.enqueued = commander.enqueued) : ∃ more, next.Queued (order ++ more) := by
    refine ⟨[], ?_⟩
    rw [List.append_nil]
    exact queued.moveCall found calls request stage enqueued
  cases move with
  | take arrived free =>
      refine kept rfl rfl ?_ rfl
      rw [arrived]
      rfl
  | push locked => exact ⟨[index], queued.push found locked⟩
  | notify pushed =>
      rcases commander.notifyWorker_cases with ⟨-, woken⟩ | ⟨-, same⟩
      · rw [woken] at kept ⊢
        refine kept rfl rfl ?_ rfl
        rw [pushed]
        rfl
      · rw [same] at kept ⊢
        refine kept rfl rfl ?_ rfl
        rw [pushed]
        rfl
  | give notified =>
      refine kept rfl rfl ?_ rfl
      rw [notified]
      rfl
  | wait stage synchronousLocked before after joined =>
      refine kept rfl rfl ?_ rfl
      exact after.1.trans before.1.symm

theorem Queued.same {order : List Nat} (queued : commander.Queued order)
    (calls : next.calls = commander.calls) (enqueued : next.enqueued = commander.enqueued) :
    next.Queued order := by
  refine ⟨queued.once, ?_, ?_⟩
  · rw [calls]
    exact queued.callers
  · have items : next.itemsOf = commander.itemsOf := by
      funext index
      rw [itemsOf, itemsOf, calls]
    rw [enqueued, items]
    exact queued.queue

theorem Queued.arrive {order : List Nat} (queued : commander.Queued order)
    (request : Request Body) :
    Queued { commander with calls := commander.calls ++ [⟨request, .arrived, []⟩] } order := by
  have before (index : Nat) (member : index ∈ order) :
      (commander.calls ++ [⟨request, .arrived, []⟩])[index]? = commander.calls[index]? := by
    obtain ⟨call, found, -⟩ := (queued.callers index).mp member
    obtain ⟨bound, -⟩ := List.getElem?_eq_some_iff.mp found
    exact List.getElem?_append_left bound
  refine ⟨queued.once, ?_, ?_⟩
  · intro index
    constructor
    · intro member
      rw [before index member]
      exact (queued.callers index).mp member
    · rintro ⟨call, there, pushed⟩
      rw [queued.callers]
      rw [Option.mem_def, List.getElem?_append] at there
      split at there
      · exact ⟨call, there, pushed⟩
      · obtain rfl := List.mem_singleton.mp (List.mem_of_getElem? there)
        cases pushed
  · rw [queued.queue]
    congr 1
    apply List.flatMap_congr
    intro index member
    rw [itemsOf, itemsOf, before index member]

theorem queued_workerMove {order : List Nat} (queued : commander.Queued order)
    (move : commander.WorkerMove program next) : next.Queued order := by
  cases move with
  | execute entry next executing executed =>
      obtain ⟨worker, rfl⟩ := execute_eq executed
      exact queued.same rfl rfl
  | finish entry finished asynchronous =>
      obtain ⟨stage, same, -⟩ := commander.loop_stage entry
      rw [same]
      exact queued.same rfl rfl
  | notify entry wakes told notifying notified =>
      obtain ⟨stage, same, -⟩ := told.loop_stage entry
      rw [same]
      rcases notifyClient_cases notified with ⟨rfl, -⟩ | ⟨index, call, found, blocked, rfl⟩
      · exact queued.same rfl rfl
      · refine queued.moveCall found rfl rfl ?_ rfl
        rw [blocked]
        rfl
  | _ => exact queued.same rfl rfl

theorem queued_step {order : List Nat} (queued : commander.Queued order) (event : Event Body)
    (stepped : step program commander event = some next) :
    ∃ more, next.Queued (order ++ more) := by
  have same (kept : next.Queued order) : ∃ more, next.Queued (order ++ more) :=
    ⟨[], by rw [List.append_nil]; exact kept⟩
  cases event with
  | arrive request =>
      obtain rfl := Option.some.inj stepped
      exact same (queued.arrive request)
  | client index =>
      obtain ⟨call, found, move⟩ := clientStep_locker stepped
      exact queued_locker queued found move
  | worker wakes => exact same (queued_workerMove queued (workerStep_move stepped))
  | wakeWorker =>
      obtain ⟨-, rfl⟩ := wakeWorker_step stepped
      exact same (queued.same rfl rfl)
  | wakeClient index =>
      obtain ⟨call, found, blocked, rfl⟩ := wakeClient_step stepped
      refine same (queued.moveCall found rfl rfl ?_ rfl)
      rw [blocked]
      rfl

theorem queued_final {order : List Nat} {events : List (Event Body)} {last : Commander World Body}
    (queued : commander.Queued order)
    (reached : Runs.final (step program) commander events = some last) :
    ∃ more, last.Queued (order ++ more) := by
  induction events generalizing commander order with
  | nil =>
      obtain rfl := Option.some.inj reached
      exact ⟨[], by rw [List.append_nil]; exact queued⟩
  | cons event rest ih =>
      rw [Runs.final_cons, Option.bind_eq_some_iff] at reached
      obtain ⟨next, stepped, reached⟩ := reached
      obtain ⟨first, queued⟩ := queued_step queued event stepped
      obtain ⟨second, queued⟩ := ih queued reached
      exact ⟨first ++ second, by rw [← List.append_assoc]; exact queued⟩

/-! The execution of the queue. -/

theorem workOf_executes (commander : Commander World Body) (item : Item Body) :
    item.Executes (commander.workOf item) := by
  cases item with
  | clientCommand command => exact rfl
  | undoCommand requested => trivial
  | redoCommand requested => trivial
  | killCommand => trivial

/-- The steps that neither queue nor execute. -/
structure Idle (commander next : Commander World Body) : Prop where
  waiting : next.waiting = commander.waiting
  performed : next.performed = commander.performed
  enqueued : next.enqueued = commander.enqueued
  worker : next.worker = commander.worker

theorem Idle.inOrder (idle : Idle commander next) (inOrder : commander.InOrder) :
    next.InOrder := by
  obtain ⟨front, queue, executed⟩ := inOrder
  refine ⟨front, ?_, ?_⟩
  · rw [idle.enqueued, idle.waiting]
    exact queue
  · rw [idle.performed]
    exact executed

theorem Idle.sequential {world : World} (idle : Idle commander next)
    (sequential : commander.Sequential program world) : next.Sequential program world := by
  unfold Sequential
  rw [idle.performed, idle.worker]
  exact sequential

theorem Idle.moveStage {stage : WorkerStage Body} (before : commander.stage.toExecute = [])
    (after : stage.toExecute = []) : Idle commander { commander with stage := stage } :=
  ⟨by simp [Commander.waiting, before, after], rfl, rfl, rfl⟩

theorem Idle.loop (entry : Entry Body) (before : commander.stage.toExecute = []) :
    Idle commander (commander.loop entry) := by
  obtain ⟨stage, same, free, -⟩ := commander.loop_stage entry
  rw [same]
  exact .moveStage before (waiting_of_heldEntry free)

/-- A step is idle, or it queues the items of one call, or it executes the entry in hand. -/
theorem step_idle_or (event : Event Body) (stepped : step program commander event = some next) :
    Idle commander next ∨
    (∃ index call, next = commander.push index call) ∨
    ∃ entry, commander.stage = .executing entry ∧
      commander.execute program entry = some next := by
  cases event with
  | arrive request =>
      obtain rfl := Option.some.inj stepped
      exact Or.inl ⟨rfl, rfl, rfl, rfl⟩
  | client index =>
      obtain ⟨call, found, move⟩ := clientStep_locker stepped
      cases move with
      | push locked => exact Or.inr (Or.inl ⟨index, call, rfl⟩)
      | notify pushed =>
          left
          rcases commander.notifyWorker_cases with ⟨blocked, woken⟩ | ⟨-, same⟩
          · rw [woken]
            exact ⟨by simp [waiting, restage, setCall, blocked, WorkerStage.toExecute],
              rfl, rfl, rfl⟩
          · rw [same]
            exact ⟨rfl, rfl, rfl, rfl⟩
      | take arrived free => exact Or.inl ⟨rfl, rfl, rfl, rfl⟩
      | give notified => exact Or.inl ⟨rfl, rfl, rfl, rfl⟩
      | wait stage synchronousLocked before after joined => exact Or.inl ⟨rfl, rfl, rfl, rfl⟩
  | worker wakes =>
      cases workerStep_move stepped with
      | rest checking empty =>
          exact Or.inl ⟨by simp [waiting, checking, WorkerStage.toExecute], rfl, rfl, rfl⟩
      | pop entry later popping queue =>
          exact Or.inl ⟨by simp [waiting, popping, queue, WorkerStage.toExecute], rfl, rfl, rfl⟩
      | execute entry next executing executed => exact Or.inr (Or.inr ⟨entry, executing, executed⟩)
      | countOff entry finished synchronous =>
          exact Or.inl ⟨by simp [waiting, finished, WorkerStage.toExecute], rfl, rfl, rfl⟩
      | finish entry finished asynchronous =>
          left
          apply Idle.loop
          rw [finished]
          rfl
      | notify entry wakes told notifying notified =>
          left
          obtain ⟨calls, rfl⟩ := notifyClient_calls notified
          have looped : Idle { commander with calls := calls }
              (Commander.loop { commander with calls := calls } entry) := by
            apply Idle.loop
            rw [notifying]
            rfl
          exact ⟨looped.waiting, looped.performed, looped.enqueued, looped.worker⟩
      | turn stage commandLocked hasCommandsLocked turns =>
          left
          refine ⟨?_, rfl, rfl, rfl⟩
          rw [waiting, waiting, waiting_of_heldEntry turns.before]
          exact congrArg (· ++ commander.todoBuffer) (waiting_of_heldEntry turns.after)
  | wakeWorker =>
      obtain ⟨blocked, rfl⟩ := wakeWorker_step stepped
      refine Or.inl (.moveStage ?_ rfl)
      rw [blocked]
      rfl
  | wakeClient index =>
      obtain ⟨call, -, -, rfl⟩ := wakeClient_step stepped
      exact Or.inl ⟨rfl, rfl, rfl, rfl⟩

theorem InOrder.push (inOrder : commander.InOrder) (index : Nat) (call : Call Body) :
    (commander.push index call).InOrder := by
  obtain ⟨front, queue, executed⟩ := inOrder
  refine ⟨front, ?_, executed⟩
  simp only [Commander.push, waiting] at queue ⊢
  rw [← List.append_assoc, ← List.append_assoc, List.append_left_inj, queue, List.append_assoc]

theorem InOrder.execute (inOrder : commander.InOrder) {entry : Entry Body}
    (executing : commander.stage = .executing entry)
    (executed : commander.execute program entry = some next) : next.InOrder := by
  obtain ⟨worker, rfl⟩ := execute_eq executed
  obtain ⟨front, queue, before⟩ := inOrder
  refine ⟨front ++ [entry], ?_, ?_⟩
  · simp only [waiting, executing, WorkerStage.toExecute] at queue ⊢
    rw [queue, List.append_assoc]
    rfl
  · exact List.rel_append before (.cons ⟨rfl, workOf_executes commander entry.item⟩ .nil)

theorem Sequential.execute {world : World} (sequential : commander.Sequential program world)
    {entry : Entry Body} (executed : commander.execute program entry = some next) :
    next.Sequential program world := by
  unfold Commander.execute at executed
  obtain ⟨worker, performs, rfl⟩ := Option.map_eq_some_iff.mp executed
  unfold Sequential
  rw [List.filterMap_append, Runs.final_append, sequential, Option.bind_some]
  cases work : commander.workOf entry.item with
  | none =>
      rw [work] at performs
      obtain rfl := Option.some.inj performs
      simp
  | some executed =>
      rw [work] at performs
      simpa [work, Runs.final] using performs

structure Serial (program : Program World Body) (world : World)
    (commander : Commander World Body) : Prop where
  inOrder : commander.InOrder
  sequential : commander.Sequential program world

theorem serial_step (world : World) (commander : Commander World Body) (event : Event Body)
    (serial : commander.Serial program world) :
    ∀ next ∈ step program commander event, next.Serial program world := by
  intro next stepped
  rcases step_idle_or event stepped with idle | ⟨index, call, rfl⟩ | ⟨entry, executing, executed⟩
  · exact ⟨idle.inOrder serial.inOrder, idle.sequential serial.sequential⟩
  · exact ⟨serial.inOrder.push index call, serial.sequential⟩
  · exact ⟨serial.inOrder.execute executing executed, serial.sequential.execute executed⟩

/-- Whatever the interleaving, there is one order of the calls in which their items are queued
whole; a call that has pushed comes before every call that pushes later, and the worker has
executed the front of that queue, each item once, as if alone. -/
theorem interleaving_serial (program : Program World Body) (world : World)
    (events later : List (Event Body)) (commander last : Commander World Body)
    (reached : Runs.final (step program) (start world) events = some commander)
    (continued : Runs.final (step program) commander later = some last) :
    ∃ order more, commander.Queued order ∧ last.Queued (order ++ more) ∧
      commander.Serial program world ∧ last.Serial program world := by
  have initial : (start world : Commander World Body).Serial program world :=
    ⟨start_inOrder world, start_sequential program world⟩
  have serial : commander.Serial program world :=
    Runs.final_of_kept (serial_step world) initial reached
  obtain ⟨order, queued⟩ := queued_final (start_queued world) reached
  obtain ⟨more, requeued⟩ := queued_final queued continued
  rw [List.nil_append] at queued requeued
  exact ⟨order, more, queued, requeued, serial, Runs.final_of_kept (serial_step world) serial
    continued⟩

theorem interleaving_serial_twoCalls :
    ∃ commander last : Commander Unit Unit,
      (commander.enqueued.map Entry.serial = [0] ∧ last.enqueued.map Entry.serial = [0, 1]) ∧
      ∃ order more, commander.Queued order ∧ last.Queued (order ++ more) ∧
        commander.Serial .idle () ∧ last.Serial .idle () := by
  refine ⟨_, _, ⟨?_, ?_⟩, interleaving_serial .idle ()
    [.arrive (.undo 1), .client 0, .client 0, .client 0, .client 0]
    [.arrive (.redo 2), .client 1, .client 1, .client 1, .client 1, .worker none] _ _ rfl rfl⟩
  · rfl
  · rfl

end Commander

end LeanMiniViews
