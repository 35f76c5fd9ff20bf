import LeanMiniViews.CommandCore
import LeanMiniViews.Zipper

/-!
What the worker thread does with one queued command: the stacks of commands that can be undone
and redone, kept for each undo/redo type. A map has no stack for a type that was not used yet.
-/

namespace LeanMiniViews

structure Worker (World Body : Type) where
  undoBuffers : UInt32 → Option (List (GenericCommand Body))
  redoBuffers : UInt32 → Option (List (GenericCommand Body))
  world : World

namespace Worker

variable {World Body : Type}

def start (world : World) : Worker World Body := ⟨fun _ => none, fun _ => none, world⟩

def clipRedos (worker : Worker World Body) (undoRedoTypeId : UInt32) : Worker World Body :=
  match worker.redoBuffers undoRedoTypeId with
  | some _ =>
      { worker with redoBuffers := Function.update worker.redoBuffers undoRedoTypeId (some []) }
  | none => worker

def addUndo (worker : Worker World Body) (undoRedoTypeId : UInt32)
    (command : GenericCommand Body) : Worker World Body :=
  let undoBuffer :=
    match worker.undoBuffers undoRedoTypeId with
    | some undoBuffer => command :: undoBuffer
    | none => [command]
  { worker with
    undoBuffers := Function.update worker.undoBuffers undoRedoTypeId (some undoBuffer) }

def addRedo (worker : Worker World Body) (undoRedoTypeId : UInt32)
    (command : GenericCommand Body) : Worker World Body :=
  let redoBuffer :=
    match worker.redoBuffers undoRedoTypeId with
    | some redoBuffer => command :: redoBuffer
    | none => [command]
  { worker with
    redoBuffers := Function.update worker.redoBuffers undoRedoTypeId (some redoBuffer) }

def popUndo (worker : Worker World Body) (undoRedoTypeId : UInt32)
    (rest : List (GenericCommand Body)) : Worker World Body :=
  { worker with undoBuffers := Function.update worker.undoBuffers undoRedoTypeId (some rest) }

def popRedo (worker : Worker World Body) (undoRedoTypeId : UInt32)
    (rest : List (GenericCommand Body)) : Worker World Body :=
  { worker with redoBuffers := Function.update worker.redoBuffers undoRedoTypeId (some rest) }

/-- Without a next state an exception has left the function. -/
def tryUndo (program : Program World Body) (worker : Worker World Body)
    (undoRedoTypeId : UInt32) : Option (Worker World Body) :=
  match worker.undoBuffers undoRedoTypeId with
  | some (command :: rest) =>
      let popped := worker.popUndo undoRedoTypeId rest
      match program.undoCommand command worker.world with
      | (.ok true, world) => some ({ popped with world := world }.addRedo undoRedoTypeId command)
      | (.ok false, world) => some { popped with world := world }
      | (.error _, _) => none
  | some [] => some worker
  | none => some worker

def tryRedo (program : Program World Body) (worker : Worker World Body)
    (undoRedoTypeId : UInt32) : Option (Worker World Body) :=
  match worker.redoBuffers undoRedoTypeId with
  | some (command :: rest) =>
      let popped := worker.popRedo undoRedoTypeId rest
      match program.doCommand command worker.world with
      | (.ok true, world) => some ({ popped with world := world }.addUndo undoRedoTypeId command)
      | (.ok false, world) => some { popped with world := world }
      | (.error _, _) => none
  | some [] => some worker
  | none => some worker

def doQueued (program : Program World Body) (worker : Worker World Body)
    (command : GenericCommand Body) : Option (Worker World Body) :=
  match program.doCommand command worker.world with
  | (.ok true, world) =>
      let undoRedoTypeId := command.undoRedoTypeId
      some (({ worker with world := world }.clipRedos undoRedoTypeId).addUndo undoRedoTypeId
        command)
  | (.ok false, world) => some { worker with world := world }
  | (.error _, _) => none

end Worker

/-- What `Run` executes; an undo and a redo with the type their shared command holds then. -/
inductive Work (Body : Type) where
  | doCommand (command : GenericCommand Body)
  | tryUndo (undoRedoTypeId : UInt32)
  | tryRedo (undoRedoTypeId : UInt32)

def Worker.perform {World Body : Type} (program : Program World Body)
    (worker : Worker World Body) : Work Body → Option (Worker World Body)
  | .doCommand command => worker.doQueued program command
  | .tryUndo undoRedoTypeId => worker.tryUndo program undoRedoTypeId
  | .tryRedo undoRedoTypeId => worker.tryRedo program undoRedoTypeId

namespace Worker

variable {World Body : Type}

/-! The stacks as zippers. -/

def zippers (worker : Worker World Body) (undoRedoTypeId : UInt32) :
    Zipper (GenericCommand Body) :=
  ⟨(worker.undoBuffers undoRedoTypeId).getD [], (worker.redoBuffers undoRedoTypeId).getD []⟩

@[simp] theorem zippers_start (world : World) :
    (start world : Worker World Body).zippers = fun _ => Zipper.empty := rfl

@[simp] theorem zippers_world (worker : Worker World Body) (world : World) :
    { worker with world := world }.zippers = worker.zippers := rfl

theorem zippers_update {worker changed : Worker World Body} {undoRedoTypeId : UInt32}
    {zipper : Zipper (GenericCommand Body)}
    (here : changed.zippers undoRedoTypeId = zipper)
    (elsewhere : ∀ other, other ≠ undoRedoTypeId →
      changed.undoBuffers other = worker.undoBuffers other ∧
        changed.redoBuffers other = worker.redoBuffers other) :
    changed.zippers = Function.update worker.zippers undoRedoTypeId zipper := by
  funext other
  by_cases same : other = undoRedoTypeId
  · subst same
    rw [Function.update_self, here]
  · obtain ⟨undo, redo⟩ := elsewhere other same
    rw [Function.update_of_ne same, zippers, zippers, undo, redo]

theorem zippers_clipRedos (worker : Worker World Body) (undoRedoTypeId : UInt32) :
    (worker.clipRedos undoRedoTypeId).zippers =
      Function.update worker.zippers undoRedoTypeId
        ⟨(worker.zippers undoRedoTypeId).undo, []⟩ := by
  unfold clipRedos
  cases found : worker.redoBuffers undoRedoTypeId with
  | none =>
      apply zippers_update
      · simp [zippers, found]
      · exact fun _ _ => ⟨rfl, rfl⟩
  | some redoBuffer =>
      apply zippers_update
      · simp [zippers]
      · intro other different
        exact ⟨rfl, Function.update_of_ne different _ _⟩

theorem zippers_addUndo (worker : Worker World Body) (undoRedoTypeId : UInt32)
    (command : GenericCommand Body) :
    (worker.addUndo undoRedoTypeId command).zippers =
      Function.update worker.zippers undoRedoTypeId
        ⟨command :: (worker.zippers undoRedoTypeId).undo,
          (worker.zippers undoRedoTypeId).redo⟩ := by
  apply zippers_update
  · cases found : worker.undoBuffers undoRedoTypeId <;> simp [zippers, addUndo, found]
  · intro other different
    exact ⟨Function.update_of_ne different _ _, rfl⟩

theorem zippers_addRedo (worker : Worker World Body) (undoRedoTypeId : UInt32)
    (command : GenericCommand Body) :
    (worker.addRedo undoRedoTypeId command).zippers =
      Function.update worker.zippers undoRedoTypeId
        ⟨(worker.zippers undoRedoTypeId).undo,
          command :: (worker.zippers undoRedoTypeId).redo⟩ := by
  apply zippers_update
  · cases found : worker.redoBuffers undoRedoTypeId <;> simp [zippers, addRedo, found]
  · intro other different
    exact ⟨rfl, Function.update_of_ne different _ _⟩

theorem zippers_popUndo (worker : Worker World Body) (undoRedoTypeId : UInt32)
    (rest : List (GenericCommand Body)) :
    (worker.popUndo undoRedoTypeId rest).zippers =
      Function.update worker.zippers undoRedoTypeId
        ⟨rest, (worker.zippers undoRedoTypeId).redo⟩ := by
  apply zippers_update
  · simp [zippers, popUndo]
  · intro other different
    exact ⟨Function.update_of_ne different _ _, rfl⟩

theorem zippers_popRedo (worker : Worker World Body) (undoRedoTypeId : UInt32)
    (rest : List (GenericCommand Body)) :
    (worker.popRedo undoRedoTypeId rest).zippers =
      Function.update worker.zippers undoRedoTypeId
        ⟨(worker.zippers undoRedoTypeId).undo, rest⟩ := by
  apply zippers_update
  · simp [zippers, popRedo]
  · intro other different
    exact ⟨rfl, Function.update_of_ne different _ _⟩

end Worker

end LeanMiniViews
