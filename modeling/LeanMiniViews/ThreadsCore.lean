import LeanMiniViews.HistoryCore

/-!
The threads of a `Commander`: any number of client calls and the loop of the worker. A thread
takes one step at a time, and `commandLocker` is held over several of them. A notification wakes
only a thread that is blocked already. A `wait` leaves the ownership of its lock as it was, so the
thread sleeps also with a lock that it does not own; the `unlock` of such a lock throws.
-/

namespace LeanMiniViews

/-- A command in the queue. The undo and the redo are one shared object each, whose type can
change while it waits; `requested` is the type of the call that queued it. -/
inductive Item (Body : Type) where
  | clientCommand (command : GenericCommand Body)
  | undoCommand (requested : UInt32)
  | redoCommand (requested : UInt32)
  | killCommand

def Item.isSynchronous {Body : Type} : Item Body → Bool
  | clientCommand command => command.isSynchronous
  | undoCommand _ => true
  | redoCommand _ => true
  | killCommand => true

structure Entry (Body : Type) where
  serial : Nat
  item : Item Body

def Entry.number {Body : Type} : Nat → List (Item Body) → List (Entry Body)
  | _, [] => []
  | serial, item :: rest => ⟨serial, item⟩ :: number (serial + 1) rest

/-- The calls of a client. `terminate` is `End`. -/
inductive Request (Body : Type) where
  | doOne (command : GenericCommand Body)
  | doMany (commands : List (GenericCommand Body))
  | doAcid (body : Body) (subCommands : List (GenericCommand Body)) (undoRedoTypeid : UInt32)
      (async : Bool)
  | undo (undoRedoTypeId : UInt32)
  | redo (undoRedoTypeId : UInt32)
  | terminate

namespace Request

variable {Body : Type}

def items : Request Body → List (Item Body)
  | doOne command => [.clientCommand command]
  | doMany commands => commands.map .clientCommand
  | doAcid body subCommands undoRedoTypeid async =>
      [.clientCommand (.acidParent body subCommands undoRedoTypeid async)]
  | undo undoRedoTypeId => [.undoCommand undoRedoTypeId]
  | redo undoRedoTypeId => [.redoCommand undoRedoTypeId]
  | terminate => [.killCommand]

def raises : Request Body → Nat
  | doOne command => if command.isSynchronous then 1 else 0
  | doMany commands => commands.countP (·.isSynchronous)
  | doAcid _ _ _ async => if async then 0 else 1
  | undo _ => 1
  | redo _ => 1
  | terminate => 1

def returnsAtOnce : Request Body → Bool
  | doOne command => !command.isSynchronous
  | doMany _ => false
  | doAcid _ _ _ async => async
  | undo _ => false
  | redo _ => false
  | terminate => false

def waitsUnasked : Request Body → Bool
  | doOne command => command.isSynchronous
  | doMany _ => false
  | doAcid _ _ _ async => !async
  | undo _ => false
  | redo _ => false
  | terminate => false

/-- The entries whose execution a synchronous call promises to wait for. -/
def awaits : Request Body → List (Entry Body) → List Nat
  | doAcid _ _ _ async, entries => if async then [] else entries.map Entry.serial
  | _, entries => (entries.filter fun entry => entry.item.isSynchronous).map Entry.serial

end Request

/-- Where a call stands: before `commandLocker.lock`, holding it before the push, before
`notify_one` and before the unlock; then before it decides to wait, before it evaluates the
predicate, and the way through the wait. `joining` is `commandThread->join`. -/
inductive CallStage where
  | arrived
  | locked
  | pushed
  | notified
  | unlocked
  | waiting
  | falling
  | blocked
  | woken
  | joining
  | returned
  deriving DecidableEq, Repr

structure Call (Body : Type) where
  request : Request Body
  stage : CallStage
  awaited : List Nat

/-- Where the worker stands: before `commandLocker.lock`, holding it before the look at the
queue, and holding it before the pop; on its way through `hasCommands.wait`, before the unlock
of `hasCommandsLock` and before the second `commandLocker.lock`; executing an entry, before the
counter is decremented and before `notify_one`. -/
inductive WorkerStage (Body : Type) where
  | top
  | checking
  | entering
  | falling
  | blocked
  | woken
  | leavingWait
  | relocking
  | popping
  | executing (entry : Entry Body)
  | finished (entry : Entry Body)
  | notifying (entry : Entry Body)
  | stopped

structure Commander (World Body : Type) where
  todoBuffer : List (Entry Body)
  hasCommandsToExecute : Bool
  numSynchronousCommands : UInt32
  -- `undoRedoTypeId` of `undoCommand` and of `redoCommand`
  undoType : UInt32
  redoType : UInt32
  -- whether `commandLocker` and the mutex of `synchronousLock` are held, and what
  -- `hasCommandsLock.owns_lock()` answers
  commandLocked : Bool
  synchronousLocked : Bool
  hasCommandsLocked : Bool
  calls : List (Call Body)
  stage : WorkerStage Body
  worker : Worker World Body
  -- all that was ever queued, and all that was ever executed, in order
  enqueued : List (Entry Body)
  performed : List (Nat × Option (Work Body))

def Program.idle : Program Unit Unit where
  doBody _ _ := (none, ())
  undoBody _ _ := (none, ())
  errorHandlers _ := none
  commandListeners _ := []

namespace Commander

variable {World Body : Type}

def start (world : World) : Commander World Body where
  todoBuffer := []
  hasCommandsToExecute := false
  numSynchronousCommands := 0
  undoType := uint32Max
  redoType := uint32Max
  commandLocked := false
  synchronousLocked := true
  hasCommandsLocked := true
  calls := []
  stage := .top
  worker := .start world
  enqueued := []
  performed := []

/-! The steps of a call. -/

def setCall (commander : Commander World Body) (index : Nat) (call : Call Body) :
    Commander World Body :=
  { commander with calls := commander.calls.set index call }

def restage (commander : Commander World Body) (index : Nat) (call : Call Body)
    (stage : CallStage) : Commander World Body :=
  commander.setCall index { call with stage := stage }

def leaveWait (commander : Commander World Body) (index : Nat) (call : Call Body) :
    Commander World Body :=
  match call.request with
  | .terminate => commander.restage index call .joining
  | _ => commander.restage index call .returned

/-- The statements of a call under `commandLocker`, up to `notify_one`. -/
def push (commander : Commander World Body) (index : Nat) (call : Call Body) :
    Commander World Body :=
  let entries := Entry.number commander.enqueued.length call.request.items
  { commander with
    numSynchronousCommands :=
      commander.numSynchronousCommands + UInt32.ofNat call.request.raises
    todoBuffer := commander.todoBuffer ++ entries
    hasCommandsToExecute := true
    undoType := match call.request with
      | .undo undoRedoTypeId => undoRedoTypeId
      | _ => commander.undoType
    redoType := match call.request with
      | .redo undoRedoTypeId => undoRedoTypeId
      | _ => commander.redoType
    enqueued := commander.enqueued ++ entries
    calls := commander.calls.set index
      { call with stage := .pushed, awaited := call.request.awaits entries } }

/-- `hasCommands.notify_one()`: the worker is the only thread that waits there. -/
def notifyWorker (commander : Commander World Body) : Commander World Body :=
  match commander.stage with
  | .blocked => { commander with stage := .woken }
  | _ => commander

def testCounter (commander : Commander World Body) (index : Nat) (call : Call Body) :
    Commander World Body :=
  if commander.numSynchronousCommands = 0 then commander.leaveWait index call
  else commander.restage index call .falling

def clientStep (commander : Commander World Body) (index : Nat) :
    Option (Commander World Body) :=
  match commander.calls[index]? with
  | none => none
  | some call =>
      match call.stage with
      | .arrived =>
          if commander.commandLocked then none
          else some { commander.restage index call .locked with commandLocked := true }
      | .locked => some (commander.push index call)
      | .pushed => some (commander.notifyWorker.restage index call .notified)
      | .notified =>
          some { commander.restage index call .unlocked with commandLocked := false }
      | .unlocked =>
          if call.request.returnsAtOnce then some (commander.restage index call .returned)
          else if call.request.waitsUnasked || commander.numSynchronousCommands != 0 then
            some (commander.restage index call .waiting)
          else some (commander.leaveWait index call)
      | .waiting => some (commander.testCounter index call)
      | .falling =>
          some { commander.restage index call .blocked with synchronousLocked := false }
      | .blocked => none
      | .woken =>
          if commander.synchronousLocked then none
          else some { commander.testCounter index call with synchronousLocked := true }
      | .joining =>
          match commander.stage with
          | .stopped => some (commander.restage index call .returned)
          | _ => none
      | .returned => none

/-! The steps of the worker. -/

def testHasCommands (commander : Commander World Body) : Commander World Body :=
  { commander with
    stage := if commander.hasCommandsToExecute then .leavingWait else .falling }

/-- What the worker executes for an item, with the type the shared command holds then. -/
def workOf (commander : Commander World Body) : Item Body → Option (Work Body)
  | .clientCommand command => some (.doCommand command)
  | .undoCommand _ => some (.tryUndo commander.undoType)
  | .redoCommand _ => some (.tryRedo commander.redoType)
  | .killCommand => none

/-- Without a next state an exception has left `Run`. -/
def execute (program : Program World Body) (commander : Commander World Body)
    (entry : Entry Body) : Option (Commander World Body) :=
  let work := commander.workOf entry.item
  let worker := match work with
    | some executed => commander.worker.perform program executed
    | none => some commander.worker
  worker.map fun next =>
    { commander with
      worker := next
      performed := commander.performed ++ [(entry.serial, work)]
      stage := .finished entry }

def loop (commander : Commander World Body) (entry : Entry Body) : Commander World Body :=
  match entry.item with
  | .killCommand => { commander with stage := .stopped }
  | _ => { commander with stage := .top }

/-- `synchronousExecution.notify_one()`: it wakes one blocked call, if there is one. -/
def notifyClient (commander : Commander World Body) (wakes : Option Nat) :
    Option (Commander World Body) :=
  match wakes with
  | none => if commander.calls.all (·.stage != .blocked) then some commander else none
  | some index =>
      match commander.calls[index]? with
      | none => none
      | some call =>
          if call.stage = .blocked then some (commander.restage index call .woken) else none

def workerStep (program : Program World Body) (commander : Commander World Body)
    (wakes : Option Nat) : Option (Commander World Body) :=
  match commander.stage with
  | .top =>
      if commander.commandLocked then none
      else some { commander with commandLocked := true, stage := .checking }
  | .checking =>
      match commander.todoBuffer with
      | [] =>
          some { commander with
            hasCommandsToExecute := false
            commandLocked := false
            stage := .entering }
      | _ :: _ => some { commander with stage := .popping }
  | .entering => some commander.testHasCommands
  | .falling => some { commander with stage := .blocked }
  | .blocked => none
  | .woken => some commander.testHasCommands
  | .leavingWait =>
      -- `std::system_error`: the operation is not permitted
      if commander.hasCommandsLocked then
        some { commander with hasCommandsLocked := false, stage := .relocking }
      else none
  | .relocking =>
      if commander.commandLocked then none
      else some { commander with commandLocked := true, stage := .popping }
  | .popping =>
      match commander.todoBuffer with
      | [] => some { commander with commandLocked := false, stage := .top }
      | entry :: rest =>
          some { commander with
            todoBuffer := rest
            commandLocked := false
            stage := .executing entry }
  | .executing entry => commander.execute program entry
  | .finished entry =>
      if entry.item.isSynchronous then
        some { commander with
          numSynchronousCommands := commander.numSynchronousCommands - 1
          stage := .notifying entry }
      else some (commander.loop entry)
  | .notifying entry => (commander.notifyClient wakes).map fun next => next.loop entry
  | .stopped => none

/-! Interleavings. A blocked thread may also wake without a notification. -/

inductive Event (Body : Type) where
  | arrive (request : Request Body)
  | client (index : Nat)
  | worker (wakes : Option Nat)
  | wakeWorker
  | wakeClient (index : Nat)

def step (program : Program World Body) (commander : Commander World Body) :
    Event Body → Option (Commander World Body)
  | .arrive request => some { commander with calls := commander.calls ++ [⟨request, .arrived, []⟩] }
  | .client index => commander.clientStep index
  | .worker wakes => commander.workerStep program wakes
  | .wakeWorker =>
      match commander.stage with
      | .blocked => some { commander with stage := .woken }
      | _ => none
  | .wakeClient index =>
      match commander.calls[index]? with
      | none => none
      | some call =>
          if call.stage = .blocked then some (commander.restage index call .woken) else none

/-- What the worker does next throws, and `Run` has no handler for it. -/
def escapes (program : Program World Body) (commander : Commander World Body) : Event Body → Bool
  | .worker _ =>
      match commander.stage with
      | .executing entry => (commander.execute program entry).isNone
      | .leavingWait => !commander.hasCommandsLocked
      | _ => false
  | _ => false

end Commander

end LeanMiniViews
