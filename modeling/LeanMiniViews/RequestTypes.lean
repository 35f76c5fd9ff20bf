import LeanMiniViews.Runs
import LeanMiniViews.ThreadsSteps

/-!
The types of the undo and redo requests. The type is kept in the one shared command of each
direction, so a request that waits is executed with the type of the latest one.
-/

namespace LeanMiniViews

inductive Direction where
  | undo
  | redo
  deriving DecidableEq, Repr

namespace Direction

variable {Body : Type}

def requestedBy : Direction → Item Body → Option UInt32
  | undo, .undoCommand requested => some requested
  | redo, .redoCommand requested => some requested
  | _, _ => none

def executedBy : Direction → Work Body → Option UInt32
  | undo, .tryUndo undoRedoTypeId => some undoRedoTypeId
  | redo, .tryRedo undoRedoTypeId => some undoRedoTypeId
  | _, _ => none

def requestedOf (direction : Direction) (entries : List (Entry Body)) : List UInt32 :=
  entries.filterMap fun entry => direction.requestedBy entry.item

def executedOf (direction : Direction) (performed : List (Nat × Option (Work Body))) :
    List UInt32 :=
  performed.filterMap fun done => done.2.bind direction.executedBy

end Direction

def WorkerStage.toExecute {Body : Type} : WorkerStage Body → List (Entry Body)
  | executing entry => [entry]
  | _ => []

namespace Commander

variable {World Body : Type}

def sharedType (commander : Commander World Body) : Direction → UInt32
  | .undo => commander.undoType
  | .redo => commander.redoType

def waiting (commander : Commander World Body) : List (Entry Body) :=
  commander.stage.toExecute ++ commander.todoBuffer

/-- The types executed so far and those still waiting are the types requested, in order. -/
def KeepsTypes (commander : Commander World Body) : Prop :=
  ∀ direction : Direction,
    direction.executedOf commander.performed ++ direction.requestedOf commander.waiting =
      direction.requestedOf commander.enqueued

/-- A request that is executed without an exception has the type of the latest request of its
direction. -/
def ExecutesLatest (program : Program World Body) (commander : Commander World Body) :
    Event Body → Prop
  | .worker _ => ∀ entry, commander.stage = .executing entry →
      (commander.execute program entry).isSome = true →
      ∀ (direction : Direction) (requested : UInt32),
        direction.requestedBy entry.item = some requested →
          (direction.requestedOf commander.enqueued).getLast? = some requested
  | _ => True

structure Ordered (commander : Commander World Body) : Prop where
  keeps : commander.KeepsTypes
  shared : ∀ (direction : Direction) (latest : UInt32),
    (direction.requestedOf commander.enqueued).getLast? = some latest →
      commander.sharedType direction = latest

theorem start_ordered (world : World) : (start world : Commander World Body).Ordered :=
  ⟨fun _ => rfl, fun _ _ none => nomatch none⟩

variable {program : Program World Body} {commander next : Commander World Body}

theorem Ordered.same (ordered : commander.Ordered) (waiting : next.waiting = commander.waiting)
    (performed : next.performed = commander.performed)
    (enqueued : next.enqueued = commander.enqueued)
    (undoType : next.undoType = commander.undoType)
    (redoType : next.redoType = commander.redoType) : next.Ordered := by
  refine ⟨?_, ?_⟩
  · intro direction
    rw [waiting, performed, enqueued]
    exact ordered.keeps direction
  · intro direction latest last
    rw [enqueued] at last
    have shared := ordered.shared direction latest last
    cases direction with
    | undo => exact undoType.trans shared
    | redo => exact redoType.trans shared

/-! The push. -/

theorem requestedOf_append (direction : Direction) (first second : List (Entry Body)) :
    direction.requestedOf (first ++ second) =
      direction.requestedOf first ++ direction.requestedOf second :=
  List.filterMap_append

theorem requestedOf_number (direction : Direction) (serial : Nat) (items : List (Item Body)) :
    direction.requestedOf (Entry.number serial items) =
      items.filterMap direction.requestedBy := by
  induction items generalizing serial with
  | nil => rfl
  | cons item rest ih =>
      simp only [Entry.number, Direction.requestedOf, List.filterMap_cons]
      rw [← ih (serial + 1)]
      rfl

theorem push_sharedType (commander : Commander World Body) (index : Nat) (call : Call Body)
    (direction : Direction) :
    (call.request.items.filterMap direction.requestedBy = [] ∧
      (commander.push index call).sharedType direction = commander.sharedType direction) ∨
    ∃ requested, call.request.items.filterMap direction.requestedBy = [requested] ∧
      (commander.push index call).sharedType direction = requested := by
  cases asked : call.request with
  | undo undoRedoTypeId =>
      cases direction with
      | undo => exact Or.inr ⟨undoRedoTypeId, rfl, by simp [sharedType, push, asked]⟩
      | redo => exact Or.inl ⟨rfl, by simp [sharedType, push, asked]⟩
  | redo undoRedoTypeId =>
      cases direction with
      | undo => exact Or.inl ⟨rfl, by simp [sharedType, push, asked]⟩
      | redo => exact Or.inr ⟨undoRedoTypeId, rfl, by simp [sharedType, push, asked]⟩
  | doMany commands =>
      refine Or.inl ⟨?_, ?_⟩
      · cases direction <;> simp [Request.items, Direction.requestedBy]
      · cases direction <;> simp [sharedType, push, asked]
  | _ =>
      refine Or.inl ⟨?_, ?_⟩
      · cases direction <;> rfl
      · cases direction <;> simp [sharedType, push, asked]

theorem Ordered.push (ordered : commander.Ordered) (index : Nat) (call : Call Body) :
    (commander.push index call).Ordered := by
  refine ⟨?_, ?_⟩
  · intro direction
    have keeps := ordered.keeps direction
    simp only [waiting, Commander.push, ← List.append_assoc, requestedOf_append] at keeps ⊢
    rw [keeps]
  · intro direction latest last
    simp only [Commander.push, requestedOf_append, requestedOf_number] at last
    rcases commander.push_sharedType index call direction with ⟨none, same⟩ | ⟨requested, one, new⟩
    · rw [none, List.append_nil] at last
      exact same.trans (ordered.shared direction latest last)
    · rw [one, List.getLast?_concat] at last
      exact new.trans (Option.some.inj last)

/-! The execution. -/

theorem executedOf_concat (direction : Direction)
    (performed : List (Nat × Option (Work Body))) (serial : Nat) (work : Option (Work Body)) :
    direction.executedOf (performed ++ [(serial, work)]) =
      direction.executedOf performed ++ (work.bind direction.executedBy).toList := by
  rw [Direction.executedOf, List.filterMap_append]
  cases executed : work.bind direction.executedBy with
  | none => simp [Direction.executedOf, executed]
  | some undoRedoTypeId => simp [Direction.executedOf, executed]

theorem workOf_executedBy (commander : Commander World Body) (item : Item Body)
    (direction : Direction) :
    (commander.workOf item).bind direction.executedBy =
      (direction.requestedBy item).map fun _ => commander.sharedType direction := by
  cases item with
  | undoCommand => cases direction <;> rfl
  | redoCommand => cases direction <;> rfl
  | clientCommand => cases direction <;> rfl
  | killCommand => cases direction <;> rfl

theorem execute_keeps_iff (ordered : commander.Ordered) {entry : Entry Body}
    (executing : commander.stage = .executing entry)
    (executed : commander.execute program entry = some next) :
    next.KeepsTypes ↔
      ∀ (direction : Direction) (requested : UInt32),
        direction.requestedBy entry.item = some requested →
          (direction.requestedOf commander.enqueued).getLast? = some requested := by
  obtain ⟨worker, rfl⟩ := execute_eq executed
  apply forall_congr'
  intro direction
  have keeps := ordered.keeps direction
  have waits : direction.requestedOf commander.waiting =
      (direction.requestedBy entry.item).toList ++ direction.requestedOf commander.todoBuffer := by
    rw [waiting, executing, WorkerStage.toExecute, requestedOf_append]
    cases asked : direction.requestedBy entry.item with
    | none => simp [Direction.requestedOf, asked]
    | some requested => simp [Direction.requestedOf, asked]
  have left : direction.executedOf (commander.performed ++
        [(entry.serial, commander.workOf entry.item)]) =
      direction.executedOf commander.performed ++
        ((direction.requestedBy entry.item).map fun _ => commander.sharedType direction).toList := by
    rw [executedOf_concat, workOf_executedBy]
  change _ ++ direction.requestedOf commander.todoBuffer = _ ↔ _
  rw [left, ← keeps, waits]
  cases asked : direction.requestedBy entry.item with
  | none => simp
  | some requested =>
      rw [asked, Option.toList_some] at waits
      obtain ⟨latest, last⟩ : ∃ latest,
          (direction.requestedOf commander.enqueued).getLast? = some latest := by
        rw [← Option.isSome_iff_exists, ← keeps, waits]
        simp
      have shared := ordered.shared direction latest last
      rw [← keeps, waits] at last
      simp only [Option.map_some, Option.toList_some, shared, last]
      simp [eq_comm]

/-! The steps. -/

theorem waiting_of_heldEntry {stage : WorkerStage Body} (none : stage.heldEntry = none) :
    stage.toExecute = [] := by
  cases stage with
  | executing => cases none
  | _ => rfl

theorem Ordered.moveStage (ordered : commander.Ordered) {stage : WorkerStage Body}
    (before : commander.stage.toExecute = []) (after : stage.toExecute = []) :
    { commander with stage := stage }.Ordered := by
  refine ordered.same ?_ rfl rfl rfl rfl
  rw [waiting, waiting, before, after]

theorem Ordered.loop (ordered : commander.Ordered) (entry : Entry Body)
    (before : commander.stage.toExecute = []) : (commander.loop entry).Ordered := by
  obtain ⟨stage, same, free, -⟩ := commander.loop_stage entry
  rw [same]
  exact ordered.moveStage before (waiting_of_heldEntry free)

theorem ordered_clientMove (ordered : commander.Ordered) {index : Nat} {call : Call Body}
    (move : commander.ClientMove index call next) : next.Ordered := by
  cases move with
  | push locked => exact ordered.push index call
  | notify pushed =>
      rcases commander.notifyWorker_cases with ⟨blocked, woken⟩ | ⟨-, same⟩
      · rw [woken]
        refine ordered.same ?_ rfl rfl rfl rfl
        simp [waiting, restage, setCall, blocked, WorkerStage.toExecute]
      · rw [same]
        exact ordered.same rfl rfl rfl rfl rfl
  | pass stage commandLocked synchronousLocked before passes =>
      exact ordered.same rfl rfl rfl rfl rfl

theorem ordered_workerMove (ordered : commander.Ordered)
    (move : commander.WorkerMove program next)
    (idle : ∀ entry, commander.stage ≠ .executing entry) : next.Ordered := by
  cases move with
  | rest checking empty =>
      refine ordered.same ?_ rfl rfl rfl rfl
      simp [waiting, checking, WorkerStage.toExecute]
  | pop entry later popping queue =>
      refine ordered.same ?_ rfl rfl rfl rfl
      simp [waiting, popping, queue, WorkerStage.toExecute]
  | execute entry next executing executed => exact absurd executing (idle entry)
  | countOff entry finished synchronous =>
      refine ordered.same ?_ rfl rfl rfl rfl
      simp [waiting, finished, WorkerStage.toExecute]
  | finish entry finished asynchronous =>
      apply ordered.loop
      rw [finished]
      rfl
  | notify entry wakes told notifying notified =>
      rcases notifyClient_cases notified with ⟨rfl, -⟩ | ⟨index, call, -, -, rfl⟩
      · apply ordered.loop
        rw [notifying]
        rfl
      · have woken : (commander.restage index call .woken).Ordered :=
          ordered.same rfl rfl rfl rfl rfl
        apply woken.loop
        simp [restage, setCall, notifying, WorkerStage.toExecute]
  | turn stage commandLocked hasCommandsLocked turns =>
      refine ordered.same ?_ rfl rfl rfl rfl
      rw [waiting, waiting, waiting_of_heldEntry turns.before]
      exact congrArg (· ++ commander.todoBuffer) (waiting_of_heldEntry turns.after)

theorem Ordered.execute (ordered : commander.Ordered) {entry : Entry Body}
    (executed : commander.execute program entry = some next) (keeps : next.KeepsTypes) :
    next.Ordered := by
  obtain ⟨worker, rfl⟩ := execute_eq executed
  refine ⟨keeps, ?_⟩
  intro direction latest last
  have shared := ordered.shared direction latest last
  cases direction with
  | undo => exact shared
  | redo => exact shared

theorem step_ordered_iff (event : Event Body) (ordered : commander.Ordered)
    (stepped : step program commander event = some next) :
    (next.KeepsTypes ↔ commander.ExecutesLatest program event) ∧
      (next.KeepsTypes → next.Ordered) := by
  have always (still : next.Ordered) (allowed : commander.ExecutesLatest program event) :
      (next.KeepsTypes ↔ commander.ExecutesLatest program event) ∧
        (next.KeepsTypes → next.Ordered) :=
    ⟨iff_of_true still.keeps allowed, fun _ => still⟩
  cases event with
  | arrive request =>
      obtain rfl := Option.some.inj stepped
      exact always (ordered.same rfl rfl rfl rfl rfl) trivial
  | client index =>
      obtain ⟨call, -, move⟩ := clientStep_move stepped
      exact always (ordered_clientMove ordered move) trivial
  | worker wakes =>
      by_cases busy : ∃ entry, commander.stage = .executing entry
      · obtain ⟨entry, executing⟩ := busy
        have executed : commander.execute program entry = some next := by
          simpa [step, workerStep, executing] using stepped
        refine ⟨?_, ordered.execute executed⟩
        rw [execute_keeps_iff ordered executing executed]
        constructor
        · intro latest other same returned
          rw [executing] at same
          cases same
          exact latest
        · exact fun latest => latest entry executing (by simp [executed])
      · have idle : ∀ entry, commander.stage ≠ .executing entry :=
          fun entry same => busy ⟨entry, same⟩
        refine always (ordered_workerMove ordered (workerStep_move stepped) idle) ?_
        exact fun entry executing => absurd executing (idle entry)
  | wakeWorker =>
      obtain ⟨blocked, rfl⟩ := wakeWorker_step stepped
      refine always (ordered.moveStage ?_ rfl) trivial
      rw [blocked]
      rfl
  | wakeClient index =>
      obtain ⟨call, -, -, rfl⟩ := wakeClient_step stepped
      exact always (ordered.same rfl rfl rfl rfl rfl) trivial

theorem executesLatest_of_stuck {event : Event Body}
    (stuck : step program commander event = none) : commander.ExecutesLatest program event := by
  cases event with
  | worker wakes =>
      intro entry executing returned
      have failed : commander.execute program entry = none := by
        simpa [step, workerStep, executing] using stuck
      simp [failed] at returned
  | _ => trivial

/-- The types executed are the types requested, in queue order, in exactly the runs that execute
a request only while it is, by its type, the latest of its direction. -/
theorem types_kept_iff (program : Program World Body) (world : World)
    (events : List (Event Body)) :
    Runs.Along (step program) (Runs.After (step program) fun _ _ next => next.KeepsTypes)
        (start world) events ↔
      Runs.Along (step program) (ExecutesLatest program) (start world) events := by
  apply Runs.along_iff_of_exact _ _ (start_ordered world)
  · intro commander event ordered
    exact Runs.after_iff executesLatest_of_stuck fun next stepped =>
      (step_ordered_iff event ordered stepped).1
  · intro commander event ordered latest next stepped
    obtain ⟨exactly, kept⟩ := step_ordered_iff event ordered stepped
    exact kept (exactly.mpr latest)

instance (commander : Commander World Body) : Decidable commander.KeepsTypes :=
  decidable_of_iff
    ((Direction.undo.executedOf commander.performed ++
          Direction.undo.requestedOf commander.waiting =
        Direction.undo.requestedOf commander.enqueued) ∧
      Direction.redo.executedOf commander.performed ++
          Direction.redo.requestedOf commander.waiting =
        Direction.redo.requestedOf commander.enqueued)
    ⟨fun both direction => match direction with
      | .undo => both.1
      | .redo => both.2,
    fun keeps => ⟨keeps .undo, keeps .redo⟩⟩

/-- Two clients ask to undo different types before the worker gets to the first request. -/
theorem types_mixed_twoUndos :
    ¬ ∀ (World Body : Type) (program : Program World Body) (world : World)
      (events : List (Event Body)),
      Runs.Along (step program) (Runs.After (step program) fun _ _ next => next.KeepsTypes)
        (start world) events := by
  intro claim
  have kept := claim Unit Unit .idle ()
    [.arrive (.undo 1), .arrive (.undo 2), .client 0, .client 0, .client 0, .client 0,
      .client 1, .client 1, .client 1, .client 1, .worker none, .worker none, .worker none,
      .worker none]
  revert kept
  decide

end Commander

end LeanMiniViews
