import LeanMiniViews.CommandEffects
import LeanMiniViews.HistoryCore
import LeanMiniViews.Runs

/-!
The stacks of the worker as one zipper for each undo/redo type, in runs of single commands.
-/

namespace LeanMiniViews

namespace Work

variable {Body : Type}

def IsPlain : Work Body → Prop
  | doCommand command => command.IsPlain
  | tryUndo _ => True
  | tryRedo _ => True

def move : Work Body → Zipper.Move UInt32 (GenericCommand Body)
  | doCommand command => .push command.undoRedoTypeId command
  | tryUndo undoRedoTypeId => .back undoRedoTypeId
  | tryRedo undoRedoTypeId => .forth undoRedoTypeId

end Work

namespace Worker

variable {World Body : Type} {program : Program World Body} {worker : Worker World Body}

/-! One piece of work of a program that lets nothing escape. -/

theorem doQueued_of_done {command : GenericCommand Body} {world : World}
    (done : program.doCommand command worker.world = (.ok true, world)) :
    ∃ next, worker.doQueued program command = some next ∧
      next.zippers = Zipper.move worker.zippers (.push command.undoRedoTypeId command) ∧
      next.world = world := by
  simp only [doQueued, done]
  refine ⟨_, rfl, ?_, ?_⟩
  · rw [zippers_addUndo, zippers_clipRedos]
    simp [Zipper.move, Zipper.push]
  · simp only [addUndo, clipRedos]
    split <;> rfl

theorem tryUndo_of_nil {undoRedoTypeId : UInt32}
    (none : (worker.zippers undoRedoTypeId).undo = []) :
    worker.tryUndo program undoRedoTypeId = some worker := by
  unfold tryUndo
  split
  · rename_i found
    simp [zippers, found] at none
  · rfl
  · rfl

theorem tryRedo_of_nil {undoRedoTypeId : UInt32}
    (none : (worker.zippers undoRedoTypeId).redo = []) :
    worker.tryRedo program undoRedoTypeId = some worker := by
  unfold tryRedo
  split
  · rename_i found
    simp [zippers, found] at none
  · rfl
  · rfl

theorem undoBuffers_of_cons {undoRedoTypeId : UInt32} {command : GenericCommand Body}
    {rest : List (GenericCommand Body)}
    (top : (worker.zippers undoRedoTypeId).undo = command :: rest) :
    worker.undoBuffers undoRedoTypeId = some (command :: rest) := by
  cases found : worker.undoBuffers undoRedoTypeId with
  | none => simp [zippers, found] at top
  | some undoBuffer => simpa [zippers, found] using top

theorem redoBuffers_of_cons {undoRedoTypeId : UInt32} {command : GenericCommand Body}
    {rest : List (GenericCommand Body)}
    (top : (worker.zippers undoRedoTypeId).redo = command :: rest) :
    worker.redoBuffers undoRedoTypeId = some (command :: rest) := by
  cases found : worker.redoBuffers undoRedoTypeId with
  | none => simp [zippers, found] at top
  | some redoBuffer => simpa [zippers, found] using top

theorem tryUndo_of_undone {undoRedoTypeId : UInt32} {command : GenericCommand Body}
    {rest : List (GenericCommand Body)} {world : World}
    (top : (worker.zippers undoRedoTypeId).undo = command :: rest)
    (undone : program.undoCommand command worker.world = (.ok true, world)) :
    ∃ next, worker.tryUndo program undoRedoTypeId = some next ∧
      next.zippers = Zipper.move worker.zippers (.back undoRedoTypeId) ∧ next.world = world := by
  simp only [tryUndo, undoBuffers_of_cons top, undone]
  refine ⟨_, rfl, ?_, rfl⟩
  rw [zippers_addRedo, zippers_world, zippers_popUndo]
  simp [Zipper.move, Zipper.back_cons top]

theorem tryUndo_of_refused {undoRedoTypeId : UInt32} {command : GenericCommand Body}
    {rest : List (GenericCommand Body)} {world : World}
    (top : (worker.zippers undoRedoTypeId).undo = command :: rest)
    (refused : program.undoCommand command worker.world = (.ok false, world)) :
    ∃ next, worker.tryUndo program undoRedoTypeId = some next ∧
      next.zippers = Function.update worker.zippers undoRedoTypeId
        ⟨rest, (worker.zippers undoRedoTypeId).redo⟩ ∧ next.world = world := by
  simp only [tryUndo, undoBuffers_of_cons top, refused]
  refine ⟨_, rfl, ?_, rfl⟩
  rw [zippers_world, zippers_popUndo]

theorem tryRedo_of_done {undoRedoTypeId : UInt32} {command : GenericCommand Body}
    {rest : List (GenericCommand Body)} {world : World}
    (top : (worker.zippers undoRedoTypeId).redo = command :: rest)
    (done : program.doCommand command worker.world = (.ok true, world)) :
    ∃ next, worker.tryRedo program undoRedoTypeId = some next ∧
      next.zippers = Zipper.move worker.zippers (.forth undoRedoTypeId) ∧ next.world = world := by
  simp only [tryRedo, redoBuffers_of_cons top, done]
  refine ⟨_, rfl, ?_, rfl⟩
  rw [zippers_addUndo, zippers_world, zippers_popRedo]
  simp [Zipper.move, Zipper.forth_cons top]

end Worker

/-! Commands of different types act on different components of the state. -/

structure Components (Body : Type) (Component : UInt32 → Type) where
  act : ∀ undoRedoTypeId, GenericCommand Body → Component undoRedoTypeId → Component undoRedoTypeId
  unact : ∀ undoRedoTypeId, GenericCommand Body → Component undoRedoTypeId →
    Component undoRedoTypeId
  unact_act : ∀ undoRedoTypeId command component,
    unact undoRedoTypeId command (act undoRedoTypeId command component) = component

namespace Components

variable {Body : Type} {Component : UInt32 → Type} (components : Components Body Component)

def effects : Effects Body (∀ undoRedoTypeId, Component undoRedoTypeId) where
  apply command state :=
    Function.update state command.undoRedoTypeId
      (components.act command.undoRedoTypeId command (state command.undoRedoTypeId))
  revert command state :=
    Function.update state command.undoRedoTypeId
      (components.unact command.undoRedoTypeId command (state command.undoRedoTypeId))
  revert_apply command state := by
    simp [components.unact_act]

/-- The stacks hold single commands of their own type, and each component is what its undo stack
makes of the initial one. -/
structure Follows (initial : ∀ undoRedoTypeId, Component undoRedoTypeId)
    (worker : Worker ((∀ undoRedoTypeId, Component undoRedoTypeId) × Unit) Body) : Prop where
  own : ∀ undoRedoTypeId, (worker.zippers undoRedoTypeId).All fun command =>
    command.IsPlain ∧ command.undoRedoTypeId = undoRedoTypeId
  state : ∀ undoRedoTypeId, worker.world.1 undoRedoTypeId =
    Zipper.replay (components.act undoRedoTypeId) (initial undoRedoTypeId)
      (worker.zippers undoRedoTypeId).undo

variable {components} {initial : ∀ undoRedoTypeId, Component undoRedoTypeId}
  {worker : Worker ((∀ undoRedoTypeId, Component undoRedoTypeId) × Unit) Body}

theorem Follows.update (follows : components.Follows initial worker)
    {next : Worker ((∀ undoRedoTypeId, Component undoRedoTypeId) × Unit) Body} {changed : UInt32}
    {zipper : Zipper (GenericCommand Body)} {component : Component changed}
    (zippers : next.zippers = Function.update worker.zippers changed zipper)
    (state : next.world.1 = Function.update worker.world.1 changed component)
    (agrees : component = Zipper.replay (components.act changed) (initial changed) zipper.undo)
    (undoRedoTypeId : UInt32) :
    next.world.1 undoRedoTypeId =
      Zipper.replay (components.act undoRedoTypeId) (initial undoRedoTypeId)
        (next.zippers undoRedoTypeId).undo := by
  rw [zippers, state]
  by_cases same : undoRedoTypeId = changed
  · subst same
    rw [Function.update_self, Function.update_self]
    exact agrees
  · rw [Function.update_of_ne same, Function.update_of_ne same]
    exact follows.state undoRedoTypeId

theorem Follows.owned (follows : components.Follows initial worker) {work : Work Body}
    (plain : work.IsPlain) (undoRedoTypeId : UInt32) :
    (Zipper.move worker.zippers work.move undoRedoTypeId).All fun command =>
      command.IsPlain ∧ command.undoRedoTypeId = undoRedoTypeId := by
  apply Zipper.all_move follows.own work.move
  intro key command pushed
  cases work with
  | doCommand queued =>
      obtain ⟨rfl, rfl⟩ : queued.undoRedoTypeId = key ∧ queued = command := by
        simpa [Work.move] using pushed
      exact ⟨plain, rfl⟩
  | tryUndo => cases pushed
  | tryRedo => cases pushed

theorem doCommand_never {command : GenericCommand Body} (plain : command.IsPlain)
    (world : (∀ undoRedoTypeId, Component undoRedoTypeId) × Unit) :
    (components.effects.program .never).doCommand command world =
      (.ok true, (components.effects.apply command world.1, ())) :=
  components.effects.doCommand_plain .never plain world.1 world.2

theorem undoCommand_never {command : GenericCommand Body} (plain : command.IsPlain)
    (world : (∀ undoRedoTypeId, Component undoRedoTypeId) × Unit) :
    (components.effects.program .never).undoCommand command world =
      (.ok true, (components.effects.revert command world.1, ())) :=
  components.effects.undoCommand_plain .never plain world.1 rfl

theorem follows_step (follows : components.Follows initial worker) (work : Work Body)
    (plain : work.IsPlain) :
    ∃ next, worker.perform (components.effects.program .never) work = some next ∧
      next.zippers = Zipper.move worker.zippers work.move ∧
      components.Follows initial next := by
  have kept {next : Worker ((∀ undoRedoTypeId, Component undoRedoTypeId) × Unit) Body}
      (zippers : next.zippers = Zipper.move worker.zippers work.move)
      (state : ∀ undoRedoTypeId, next.world.1 undoRedoTypeId =
        Zipper.replay (components.act undoRedoTypeId) (initial undoRedoTypeId)
          (next.zippers undoRedoTypeId).undo) : components.Follows initial next :=
    ⟨fun undoRedoTypeId => zippers ▸ follows.owned plain undoRedoTypeId, state⟩
  cases work with
  | doCommand command =>
      obtain ⟨next, performed, zippers, world⟩ :=
        Worker.doQueued_of_done (doCommand_never plain worker.world)
      refine ⟨next, performed, zippers, kept zippers ?_⟩
      apply follows.update zippers (congrArg Prod.fst world)
      rw [Zipper.replay_push, follows.state]
  | tryUndo undoRedoTypeId =>
      cases stack : (worker.zippers undoRedoTypeId).undo with
      | nil =>
          have still : worker.zippers = Zipper.move worker.zippers (.back undoRedoTypeId) := by
            simp [Zipper.move, Zipper.back_nil stack]
          exact ⟨worker, Worker.tryUndo_of_nil stack, still, follows⟩
      | cons command rest =>
          obtain ⟨undoable, rfl⟩ := (follows.own undoRedoTypeId).1 command (by simp [stack])
          obtain ⟨next, performed, zippers, world⟩ :=
            Worker.tryUndo_of_undone stack (undoCommand_never undoable worker.world)
          refine ⟨next, performed, zippers, kept zippers ?_⟩
          apply follows.update zippers (congrArg Prod.fst world)
          rw [Zipper.replay_back _ _ (components.unact_act command.undoRedoTypeId) stack,
            follows.state]
  | tryRedo undoRedoTypeId =>
      cases stack : (worker.zippers undoRedoTypeId).redo with
      | nil =>
          have still : worker.zippers = Zipper.move worker.zippers (.forth undoRedoTypeId) := by
            simp [Zipper.move, Zipper.forth_nil stack]
          exact ⟨worker, Worker.tryRedo_of_nil stack, still, follows⟩
      | cons command rest =>
          obtain ⟨redoable, rfl⟩ := (follows.own undoRedoTypeId).2 command (by simp [stack])
          obtain ⟨next, performed, zippers, world⟩ :=
            Worker.tryRedo_of_done stack (doCommand_never redoable worker.world)
          refine ⟨next, performed, zippers, kept zippers ?_⟩
          apply follows.update zippers (congrArg Prod.fst world)
          rw [Zipper.replay_forth _ _ stack, follows.state]

theorem follows_run (follows : components.Follows initial worker) {works : List (Work Body)}
    (plain : ∀ work ∈ works, work.IsPlain) :
    ∃ last, Runs.final (Worker.perform (components.effects.program .never)) worker works =
        some last ∧
      last.zippers = Zipper.moves worker.zippers (works.map Work.move) ∧
      components.Follows initial last := by
  induction works generalizing worker with
  | nil => exact ⟨worker, rfl, rfl, follows⟩
  | cons work rest ih =>
      obtain ⟨next, performed, moved, follows⟩ :=
        follows_step follows work (plain work List.mem_cons_self)
      obtain ⟨last, reached, zippers, followsLast⟩ :=
        ih follows fun other member => plain other (List.mem_cons_of_mem _ member)
      refine ⟨last, ?_, ?_, followsLast⟩
      · rw [Runs.final_cons, performed]
        exact reached
      · rw [zippers, moved]
        rfl

theorem follows_start (initial : ∀ undoRedoTypeId, Component undoRedoTypeId) :
    components.Follows initial (Worker.start (initial, ())) :=
  ⟨fun _ => ⟨by simp [Zipper.empty], by simp [Zipper.empty]⟩, fun _ => rfl⟩

/-- After any run of single commands that never fail, undos and redos, the stacks of every type
are those of its reference zipper, and the component of the type is what the commands on its
undo stack make of the initial one. -/
theorem history_refines_zippers (components : Components Body Component)
    (initial : ∀ undoRedoTypeId, Component undoRedoTypeId) (works : List (Work Body))
    (plain : ∀ work ∈ works, work.IsPlain) :
    ∃ last, Runs.final (Worker.perform (components.effects.program .never))
        (Worker.start (initial, ())) works = some last ∧
      last.zippers = Zipper.moves (fun _ => Zipper.empty) (works.map Work.move) ∧
      ∀ undoRedoTypeId, last.world.1 undoRedoTypeId =
        Zipper.replay (components.act undoRedoTypeId) (initial undoRedoTypeId)
          (last.zippers undoRedoTypeId).undo := by
  obtain ⟨last, reached, zippers, follows⟩ := follows_run (follows_start initial) plain
  exact ⟨last, reached, zippers, follows.state⟩

def counters : Components Nat fun _ => Int where
  act _ command component := component + command.body
  unact _ command component := component - command.body
  unact_act _ command component := by omega

def counted : List (Work Nat) :=
  [.doCommand (.ofBody 5 false 4 1), .doCommand (.ofBody 7 false 4 2), .tryUndo 1, .tryRedo 1]

theorem history_refines_zippers_counted :
    ∃ last, Runs.final (Worker.perform (counters.effects.program .never))
        (Worker.start (fun _ => 0, ())) counted = some last ∧
      last.zippers = Zipper.moves (fun _ => Zipper.empty) (counted.map Work.move) ∧
      ∀ undoRedoTypeId, last.world.1 undoRedoTypeId =
        Zipper.replay (counters.act undoRedoTypeId) 0 (last.zippers undoRedoTypeId).undo :=
  history_refines_zippers counters (fun _ => 0) counted (by
    simp [counted, Work.IsPlain, GenericCommand.IsPlain, GenericCommand.ofBody,
      GenericCommand.subCommands, GenericCommand.subCommandsAreAcid])

end Components

end LeanMiniViews
