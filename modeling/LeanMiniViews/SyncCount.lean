import LeanMiniViews.Runs
import LeanMiniViews.ThreadsSteps

/-!
The counter of synchronous commands, and what a returned call may rely on. `DoAcid` counts its
command if it is not to be asynchronous, and the worker counts it off if it is.
-/

namespace LeanMiniViews

/-- The entry being executed; it is counted until the worker has decremented the counter. -/
def WorkerStage.inHand {Body : Type} : WorkerStage Body → List (Entry Body)
  | executing entry => [entry]
  | finished entry => [entry]
  | _ => []

def Request.isAcid {Body : Type} : Request Body → Bool
  | doAcid _ _ _ _ => true
  | _ => false

namespace Commander

variable {World Body : Type}

def inFlight (commander : Commander World Body) : List (Entry Body) :=
  commander.stage.inHand ++ commander.todoBuffer

def syncCount (commander : Commander World Body) : Nat :=
  commander.inFlight.countP (·.item.isSynchronous)

def IsPerformed (commander : Commander World Body) (serial : Nat) : Prop :=
  serial ∈ commander.performed.map Prod.fst

instance (commander : Commander World Body) (serial : Nat) :
    Decidable (commander.IsPerformed serial) :=
  inferInstanceAs (Decidable (serial ∈ commander.performed.map Prod.fst))

/-- The counter counts, and whoever returned was waited for. -/
def Counts (commander : Commander World Body) : Prop :=
  commander.numSynchronousCommands.toNat = commander.syncCount ∧
  ∀ call ∈ commander.calls, call.stage = .returned →
    ∀ serial ∈ call.awaited, commander.IsPerformed serial

instance (commander : Commander World Body) : Decidable commander.Counts :=
  inferInstanceAs (Decidable (_ ∧ _))

def pushing (commander : Commander World Body) : Event Body → Option (Request Body)
  | .client index =>
      (commander.calls[index]?.filter fun call => call.stage = .locked).map Call.request
  | _ => none

/-- The event queues no ACID command, and no more commands than the counter can hold. -/
def QueuesCounted (commander : Commander World Body) (event : Event Body) : Prop :=
  ∀ request ∈ commander.pushing event,
    request.isAcid = false ∧ commander.syncCount + request.raises < UInt32.size

def Located (commander : Commander World Body) (serial : Nat) : Prop :=
  commander.IsPerformed serial ∨
    ∃ entry ∈ commander.inFlight, entry.serial = serial ∧ entry.item.isSynchronous = true

structure Waited (commander : Commander World Body) : Prop where
  located : ∀ call ∈ commander.calls, ∀ serial ∈ call.awaited, commander.Located serial
  quick : ∀ call ∈ commander.calls, call.request.returnsAtOnce = true → call.awaited = []
  left : ∀ call ∈ commander.calls, call.stage = .returned ∨ call.stage = .joining →
    ∀ serial ∈ call.awaited, commander.IsPerformed serial
  finished : ∀ entry, commander.stage = .finished entry → commander.IsPerformed entry.serial

structure Synced (commander : Commander World Body) : Prop where
  counted : commander.numSynchronousCommands.toNat = commander.syncCount
  waited : commander.Waited

theorem Synced.counts {commander : Commander World Body} (synced : commander.Synced) :
    commander.Counts :=
  ⟨synced.counted, fun call member returned =>
    synced.waited.left call member (Or.inl returned)⟩

theorem start_synced (world : World) : (start world : Commander World Body).Synced :=
  ⟨rfl, by simp [start], by simp [start], by simp [start], by simp [start]⟩

variable {program : Program World Body} {commander next : Commander World Body}

theorem Synced.performed_of_zero (synced : commander.Synced)
    (zero : commander.numSynchronousCommands = 0) {serial : Nat}
    (located : commander.Located serial) : commander.IsPerformed serial := by
  rcases located with performed | ⟨entry, flying, -, synchronous⟩
  · exact performed
  · have none : commander.syncCount = 0 := by
      rw [← synced.counted, zero]
      rfl
    have asynchronous := List.countP_eq_zero.mp none entry flying
    exact absurd synchronous asynchronous

/-! Steps that leave the calls as they are. -/

theorem Waited.sameCalls (waited : commander.Waited) (calls : next.calls = commander.calls)
    (located : ∀ serial, commander.Located serial → next.Located serial)
    (performed : ∀ serial, commander.IsPerformed serial → next.IsPerformed serial)
    (finished : ∀ entry, next.stage = .finished entry → next.IsPerformed entry.serial) :
    next.Waited := by
  refine ⟨?_, ?_, ?_, finished⟩
  · intro call member serial awaited
    exact located serial (waited.located call (calls ▸ member) serial awaited)
  · intro call member
    exact waited.quick call (calls ▸ member)
  · intro call member stage serial awaited
    exact performed serial (waited.left call (calls ▸ member) stage serial awaited)

theorem Synced.sameFlight (synced : commander.Synced) (calls : next.calls = commander.calls)
    (counter : next.numSynchronousCommands = commander.numSynchronousCommands)
    (flight : next.inFlight = commander.inFlight)
    (performed : next.performed = commander.performed)
    (busy : ∀ entry, next.stage ≠ .finished entry) : next.Synced := by
  refine ⟨?_, ?_⟩
  · rw [counter, syncCount, flight]
    exact synced.counted
  · apply synced.waited.sameCalls calls
    · intro serial located
      unfold Located IsPerformed
      rw [performed, flight]
      exact located
    · intro serial done
      unfold IsPerformed
      rw [performed]
      exact done
    · exact fun entry stage => absurd stage (busy entry)

/-! Steps of a call. -/

theorem Synced.moveCall (synced : commander.Synced) {index : Nat} {call : Call Body}
    {stage : CallStage} (member : call ∈ commander.calls)
    (calls : next.calls = commander.calls.set index { call with stage := stage })
    (counter : next.numSynchronousCommands = commander.numSynchronousCommands)
    (flight : next.inFlight = commander.inFlight)
    (performed : next.performed = commander.performed)
    (finished : ∀ entry, next.stage = .finished entry → commander.stage = .finished entry)
    (left : stage = .returned ∨ stage = .joining →
      ∀ serial ∈ call.awaited, commander.IsPerformed serial) : next.Synced := by
  have same (serial : Nat) : next.IsPerformed serial ↔ commander.IsPerformed serial := by
    rw [IsPerformed, IsPerformed, performed]
  have place (serial : Nat) : next.Located serial ↔ commander.Located serial := by
    rw [Located, Located, flight, same]
  refine ⟨?_, ?_, ?_, ?_, ?_⟩
  · rw [counter, syncCount, flight]
    exact synced.counted
  · rw [calls]
    apply forall_set
    · exact fun serial awaited =>
        (place serial).mpr (synced.waited.located call member serial awaited)
    · exact fun other before serial awaited =>
        (place serial).mpr (synced.waited.located other before serial awaited)
  · rw [calls]
    apply forall_set
    · exact synced.waited.quick call member
    · exact synced.waited.quick
  · rw [calls]
    apply forall_set
    · exact fun stage serial awaited => (same serial).mpr (left stage serial awaited)
    · exact fun other before stage serial awaited =>
        (same serial).mpr (synced.waited.left other before stage serial awaited)
  · exact fun entry stage => (same _).mpr (synced.waited.finished entry (finished entry stage))

/-! The push. -/

theorem number_countP (serial : Nat) (items : List (Item Body)) :
    (Entry.number serial items).countP (·.item.isSynchronous) =
      items.countP Item.isSynchronous := by
  induction items generalizing serial with
  | nil => rfl
  | cons item rest ih => simp [Entry.number, List.countP_cons, ih]

theorem items_countP {request : Request Body} (plain : request.isAcid = false) :
    request.items.countP Item.isSynchronous = request.raises := by
  cases request with
  | doOne command => exact List.countP_singleton
  | doMany commands =>
      rw [Request.items, Request.raises, List.countP_map]
      rfl
  | doAcid => cases plain
  | undo => rfl
  | redo => rfl
  | terminate => rfl

/-- The parent of ACID commands is synchronous if the call is not. -/
theorem items_countP_acid {request : Request Body} (acid : request.isAcid = true) :
    (request.items.countP Item.isSynchronous = 1 ∧ request.raises = 0) ∨
      (request.items.countP Item.isSynchronous = 0 ∧ request.raises = 1) := by
  cases request with
  | doAcid body subCommands undoRedoTypeid async =>
      cases async with
      | true => exact Or.inl ⟨rfl, rfl⟩
      | false => exact Or.inr ⟨rfl, rfl⟩
  | _ => cases acid

theorem awaits_eq {request : Request Body} (plain : request.isAcid = false)
    (entries : List (Entry Body)) :
    request.awaits entries =
      (entries.filter fun entry => entry.item.isSynchronous).map Entry.serial := by
  cases request with
  | doAcid => cases plain
  | _ => rfl

theorem awaits_quick {request : Request Body} (plain : request.isAcid = false)
    (quick : request.returnsAtOnce = true) (serial : Nat) :
    request.awaits (Entry.number serial request.items) = [] := by
  rw [awaits_eq plain]
  cases request with
  | doOne command =>
      have asynchronous : command.isSynchronous = false := by
        simpa [Request.returnsAtOnce] using quick
      simp [Request.items, Entry.number, Item.isSynchronous, asynchronous]
  | doAcid => cases plain
  | _ => cases quick

theorem push_inFlight (commander : Commander World Body) (index : Nat) (call : Call Body) :
    (commander.push index call).inFlight =
      commander.inFlight ++ Entry.number commander.enqueued.length call.request.items := by
  simp [inFlight, push]

theorem push_syncCount (commander : Commander World Body) (index : Nat) (call : Call Body) :
    (commander.push index call).syncCount =
      commander.syncCount + call.request.items.countP Item.isSynchronous := by
  rw [syncCount, push_inFlight, List.countP_append, number_countP]
  rfl

theorem push_counter (commander : Commander World Body) (index : Nat) (call : Call Body) :
    (commander.push index call).numSynchronousCommands.toNat =
      (commander.numSynchronousCommands.toNat + call.request.raises) % UInt32.size := by
  simp [push]

theorem push_located {serial : Nat} (index : Nat) (call : Call Body)
    (located : commander.Located serial) : (commander.push index call).Located serial := by
  rcases located with performed | ⟨entry, flying, same⟩
  · exact Or.inl performed
  · refine Or.inr ⟨entry, ?_, same⟩
    rw [push_inFlight]
    exact List.mem_append_left _ flying

theorem Synced.push (synced : commander.Synced) {index : Nat} {call : Call Body}
    (plain : call.request.isAcid = false)
    (fits : commander.syncCount + call.request.raises < UInt32.size) :
    (commander.push index call).Synced := by
  refine ⟨?_, ?_, ?_, ?_, ?_⟩
  · rw [push_counter, push_syncCount, items_countP plain, synced.counted]
    exact Nat.mod_eq_of_lt fits
  · apply forall_set
    · intro serial awaited
      rw [awaits_eq plain, List.mem_map] at awaited
      obtain ⟨entry, member, rfl⟩ := awaited
      obtain ⟨queued, synchronous⟩ := List.mem_filter.mp member
      refine Or.inr ⟨entry, ?_, rfl, synchronous⟩
      rw [push_inFlight]
      exact List.mem_append_right _ queued
    · exact fun other before serial awaited =>
        push_located index call (synced.waited.located other before serial awaited)
  · apply forall_set
    · exact fun quick => awaits_quick plain quick _
    · exact synced.waited.quick
  · apply forall_set
    · simp
    · exact synced.waited.left
  · exact synced.waited.finished

theorem fits_of_counts (synced : commander.Synced) {index : Nat} {call : Call Body}
    (counts : (commander.push index call).Counts) :
    call.request.isAcid = false ∧ commander.syncCount + call.request.raises < UInt32.size := by
  have counted := counts.1
  rw [push_counter, push_syncCount, synced.counted] at counted
  have bound : commander.syncCount < UInt32.size := by
    rw [← synced.counted]
    exact commander.numSynchronousCommands.toNat_lt
  rw [UInt32.size] at counted bound ⊢
  cases acid : call.request.isAcid with
  | true =>
      rcases items_countP_acid acid with ⟨queued, raised⟩ | ⟨queued, raised⟩
      · rw [queued, raised] at counted
        omega
      · rw [queued, raised] at counted
        omega
  | false =>
      rw [items_countP acid] at counted
      refine ⟨rfl, ?_⟩
      omega

/-! The steps. -/

theorem synced_clientMove (synced : commander.Synced) {index : Nat} {call : Call Body}
    (found : commander.calls[index]? = some call) (move : commander.ClientMove index call next)
    (fits : call.stage = .locked →
      call.request.isAcid = false ∧ commander.syncCount + call.request.raises < UInt32.size) :
    next.Synced := by
  have member : call ∈ commander.calls := List.mem_of_getElem? found
  cases move with
  | push locked => exact synced.push (fits locked).1 (fits locked).2
  | notify pushed =>
      rcases commander.notifyWorker_cases with ⟨blocked, woken⟩ | ⟨-, same⟩
      · rw [woken]
        refine synced.moveCall member rfl rfl ?_ rfl ?_ ?_
        · simp [inFlight, restage, setCall, blocked, WorkerStage.inHand]
        · exact fun entry stage => by simp [restage, setCall] at stage
        · simp
      · rw [same]
        refine synced.moveCall member rfl rfl rfl rfl (fun _ stage => stage) ?_
        simp
  | pass stage commandLocked synchronousLocked before passes =>
      refine synced.moveCall member rfl rfl rfl rfl (fun _ same => same) ?_
      intro left serial awaited
      have located := synced.waited.located call member serial awaited
      rcases passes.left left with quick | zero | joining
      · rw [synced.waited.quick call member quick] at awaited
        cases awaited
      · exact synced.performed_of_zero zero located
      · exact synced.waited.left call member (Or.inr joining) serial awaited

theorem Synced.execute (synced : commander.Synced) {entry : Entry Body}
    (executing : commander.stage = .executing entry)
    (executed : commander.execute program entry = some next) : next.Synced := by
  obtain ⟨worker, rfl⟩ := execute_eq executed
  have flight : { commander with
      worker := worker
      performed := commander.performed ++ [(entry.serial, commander.workOf entry.item)]
      stage := .finished entry }.inFlight = commander.inFlight := by
    simp [inFlight, executing, WorkerStage.inHand]
  have performed (serial : Nat) (done : commander.IsPerformed serial) :
      serial ∈ (commander.performed ++
        [(entry.serial, commander.workOf entry.item)]).map Prod.fst := by
    rw [List.map_append]
    exact List.mem_append_left _ done
  refine ⟨?_, ?_⟩
  · rw [syncCount, flight]
    exact synced.counted
  · refine synced.waited.sameCalls rfl ?_ ?_ ?_
    · intro serial located
      rcases located with done | flying
      · exact Or.inl (performed serial done)
      · refine Or.inr ?_
        rw [flight]
        exact flying
    · exact performed
    · intro other stage
      obtain rfl : entry = other := by simpa using stage
      simp [IsPerformed]

theorem inHand_of_heldEntry {stage : WorkerStage Body} (none : stage.heldEntry = none) :
    stage.inHand = [] := by
  cases stage with
  | executing => cases none
  | finished => cases none
  | _ => rfl

theorem ne_finished_of_heldEntry {stage : WorkerStage Body} (none : stage.heldEntry = none)
    (entry : Entry Body) : stage ≠ .finished entry := by
  rintro rfl
  cases none

theorem inFlight_of_finished {entry : Entry Body} (finished : commander.stage = .finished entry) :
    commander.inFlight = entry :: commander.todoBuffer := by
  rw [inFlight, finished]
  rfl

theorem Synced.countOff (synced : commander.Synced) {entry : Entry Body}
    (finished : commander.stage = .finished entry)
    (synchronous : entry.item.isSynchronous = true) :
    { commander with
      numSynchronousCommands := commander.numSynchronousCommands - 1
      stage := .notifying entry }.Synced := by
  have flight := inFlight_of_finished finished
  have counted : commander.syncCount =
      commander.todoBuffer.countP (·.item.isSynchronous) + 1 := by
    rw [syncCount, flight]
    exact List.countP_cons_of_pos synchronous
  refine ⟨?_, ?_⟩
  · have above := synced.counted
    have bound := commander.numSynchronousCommands.toNat_lt
    rw [counted] at above
    rw [UInt32.toNat_sub, above]
    simp only [syncCount, inFlight, WorkerStage.inHand, List.nil_append, UInt32.toNat_one]
    omega
  · refine synced.waited.sameCalls rfl ?_ ?_ ?_
    · rintro serial (done | ⟨other, flying, same, waits⟩)
      · exact Or.inl done
      · rw [flight] at flying
        rcases List.mem_cons.mp flying with rfl | queued
        · exact Or.inl (same ▸ synced.waited.finished other finished)
        · exact Or.inr ⟨other, queued, same, waits⟩
    · exact fun serial done => done
    · exact fun other stage => by cases stage

theorem Synced.finish (synced : commander.Synced) {entry : Entry Body}
    (finished : commander.stage = .finished entry)
    (asynchronous : entry.item.isSynchronous = false) : (commander.loop entry).Synced := by
  obtain ⟨stage, same, free, -⟩ := commander.loop_stage entry
  have flight := inFlight_of_finished finished
  have counted : commander.syncCount =
      commander.todoBuffer.countP (·.item.isSynchronous) := by
    rw [syncCount, flight]
    exact List.countP_cons_of_neg (by simp [asynchronous])
  rw [same]
  refine ⟨?_, ?_⟩
  · rw [syncCount, inFlight, inHand_of_heldEntry free, List.nil_append, ← counted]
    exact synced.counted
  · refine synced.waited.sameCalls rfl ?_ ?_ ?_
    · rintro serial (done | ⟨other, flying, place, waits⟩)
      · exact Or.inl done
      · rw [flight] at flying
        rcases List.mem_cons.mp flying with rfl | queued
        · simp [asynchronous] at waits
        · exact Or.inr ⟨other, List.mem_append_right _ queued, place, waits⟩
    · exact fun serial done => done
    · exact fun other finished => absurd finished (ne_finished_of_heldEntry free other)

theorem Synced.loop (synced : commander.Synced) (entry : Entry Body)
    (free : commander.stage.inHand = []) : (commander.loop entry).Synced := by
  obtain ⟨stage, same, empty, -⟩ := commander.loop_stage entry
  rw [same]
  refine synced.sameFlight rfl rfl ?_ rfl ?_
  · simp [inFlight, free, inHand_of_heldEntry empty]
  · exact fun other => ne_finished_of_heldEntry empty other

theorem synced_workerMove (synced : commander.Synced) (move : commander.WorkerMove program next) :
    next.Synced := by
  cases move with
  | rest checking empty =>
      refine synced.sameFlight rfl rfl ?_ rfl ?_
      · simp [inFlight, checking, WorkerStage.inHand]
      · simp
  | pop entry later popping queue =>
      refine synced.sameFlight rfl rfl ?_ rfl ?_
      · simp [inFlight, popping, queue, WorkerStage.inHand]
      · simp
  | execute entry next executing executed => exact synced.execute executing executed
  | countOff entry finished synchronous => exact synced.countOff finished synchronous
  | finish entry finished asynchronous => exact synced.finish finished asynchronous
  | notify entry wakes told notifying notified =>
      rcases notifyClient_cases notified with ⟨rfl, -⟩ | ⟨index, call, found, -, rfl⟩
      · apply synced.loop
        simp [notifying, WorkerStage.inHand]
      · have woken : (commander.restage index call .woken).Synced := by
          refine synced.moveCall (List.mem_of_getElem? found) rfl rfl rfl rfl
            (fun _ stage => stage) ?_
          simp
        apply woken.loop
        simp [restage, setCall, notifying, WorkerStage.inHand]
  | turn stage commandLocked hasCommandsLocked turns =>
      refine synced.sameFlight rfl rfl ?_ rfl ?_
      · simp [inFlight, inHand_of_heldEntry turns.before, inHand_of_heldEntry turns.after]
      · exact fun entry => ne_finished_of_heldEntry turns.after entry

theorem Synced.arrive (synced : commander.Synced) (request : Request Body) :
    Synced { commander with calls := commander.calls ++ [⟨request, .arrived, []⟩] } := by
  refine ⟨synced.counted, ?_, ?_, ?_, synced.waited.finished⟩
  · refine List.forall_mem_append.mpr ⟨synced.waited.located, ?_⟩
    simp
  · refine List.forall_mem_append.mpr ⟨synced.waited.quick, ?_⟩
    simp
  · refine List.forall_mem_append.mpr ⟨synced.waited.left, ?_⟩
    simp

theorem synced_step (commander : Commander World Body) (event : Event Body)
    (synced : commander.Synced) (queues : commander.QueuesCounted event) :
    ∀ next ∈ commander.step program event, next.Synced := by
  intro next stepped
  cases event with
  | arrive request =>
      obtain rfl := Option.some.inj stepped
      exact synced.arrive request
  | client index =>
      obtain ⟨call, found, move⟩ := clientStep_move stepped
      apply synced_clientMove synced found move
      intro locked
      apply queues
      simp [pushing, found, locked]
  | worker wakes => exact synced_workerMove synced (workerStep_move stepped)
  | wakeWorker =>
      obtain ⟨blocked, rfl⟩ := wakeWorker_step stepped
      refine synced.sameFlight rfl rfl ?_ rfl ?_
      · simp [inFlight, blocked, WorkerStage.inHand]
      · simp
  | wakeClient index =>
      obtain ⟨call, found, -, rfl⟩ := wakeClient_step stepped
      refine synced.moveCall (List.mem_of_getElem? found) rfl rfl rfl rfl
        (fun _ stage => stage) ?_
      simp

theorem step_of_pushing (program : Program World Body) {event : Event Body} {request : Request Body}
    (pushes : request ∈ commander.pushing event) :
    ∃ index call, call.request = request ∧
      commander.step program event = some (commander.push index call) := by
  cases event with
  | client index =>
      simp only [pushing, Option.mem_def, Option.map_eq_some_iff, Option.filter_eq_some_iff,
        decide_eq_true_eq] at pushes
      obtain ⟨call, ⟨found, locked⟩, same⟩ := pushes
      refine ⟨index, call, same, ?_⟩
      simp [step, clientStep, found, locked]
  | _ => cases pushes

theorem counts_iff (commander : Commander World Body) (event : Event Body)
    (synced : commander.Synced) :
    Runs.After (step program) (fun _ _ next => next.Counts) commander event ↔
      commander.QueuesCounted event := by
  constructor
  · intro counts request pushes
    obtain ⟨index, call, rfl, stepped⟩ := step_of_pushing program pushes
    exact fits_of_counts synced (counts _ stepped)
  · intro queues next stepped
    exact (synced_step commander event synced queues next stepped).counts

/-- The counter is right, and every synchronous call returns after its commands, in exactly the
runs that queue no ACID command and never fill the counter. -/
theorem counter_exact_iff (program : Program World Body) (world : World)
    (events : List (Event Body)) :
    Runs.Along (step program) (Runs.After (step program) fun _ _ next => next.Counts)
        (start world) events ↔
      Runs.Along (step program) QueuesCounted (start world) events := by
  apply Runs.along_iff_of_exact _ _ (start_synced world)
  · intro commander event synced
    exact counts_iff commander event synced
  · intro commander event synced queues
    exact synced_step commander event synced queues

/-- A synchronous `DoAcid` counts a command that the worker will not count off. -/
theorem counter_wrong_doAcid :
    ¬ ∀ (World Body : Type) (program : Program World Body) (world : World)
      (events : List (Event Body)),
      Runs.Along (step program) (Runs.After (step program) fun _ _ next => next.Counts)
        (start world) events := by
  intro claim
  have counts := claim Unit Unit .idle ()
    [.arrive (.doAcid () [.ofBody () false 4 7] 7 false), .client 0, .client 0]
  revert counts
  decide

end Commander

end LeanMiniViews
