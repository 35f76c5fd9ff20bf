import LeanMiniViews.History

/-!
Which commands are undoable when executions may fail. The worker's stacks are compared with
those that a history of the executions that took effect would have.
-/

namespace LeanMiniViews

/-- The worker, and for each type the commands whose latest execution took effect: those not
undone since, and those undone. -/
structure Observed (State Choices Body : Type) where
  worker : Worker (State × Choices) Body
  effective : UInt32 → Zipper (GenericCommand Body)

namespace Faults

variable {Body Choices : Type} (faults : Faults Body Choices)

/-- The history of effects. An execution without effect leaves it as it is, but for a redo, which
takes the command from its stack before it is executed. -/
def record (effective : UInt32 → Zipper (GenericCommand Body)) (choices : Choices) :
    Work Body → UInt32 → Zipper (GenericCommand Body)
  | .doCommand command =>
      if (faults.execution command choices).1 = .applied then
        Zipper.move effective (.push command.undoRedoTypeId command)
      else effective
  | .tryUndo undoRedoTypeId => Zipper.move effective (.back undoRedoTypeId)
  | .tryRedo undoRedoTypeId =>
      match (effective undoRedoTypeId).redo with
      | [] => effective
      | command :: later =>
          if (faults.execution command choices).1 = .applied then
            Zipper.move effective (.forth undoRedoTypeId)
          else
            Function.update effective undoRedoTypeId
              ⟨(effective undoRedoTypeId).undo, later⟩

end Faults

namespace Observed

variable {State Choices Body : Type}

def step (effects : Effects Body State) (faults : Faults Body Choices)
    (observed : Observed State Choices Body) (work : Work Body) :
    Option (Observed State Choices Body) :=
  (observed.worker.perform (effects.program faults) work).map fun next =>
    ⟨next, faults.record observed.effective observed.worker.world.2 work⟩

variable (faults : Faults Body Choices)

def FailedDo (observed : Observed State Choices Body) : Work Body → Prop
  | .doCommand command => (faults.execution command observed.worker.world.2).1 ≠ .applied
  | .tryUndo _ => False
  | .tryRedo _ => False

def OnlyEffective (observed : Observed State Choices Body) (work : Work Body)
    (next : Observed State Choices Body) : Prop :=
  (∀ undoRedoTypeId,
    (next.worker.zippers undoRedoTypeId).undo = (next.effective undoRedoTypeId).undo) ∧
  (FailedDo faults observed work → ∀ undoRedoTypeId,
    (next.worker.zippers undoRedoTypeId).redo = (observed.worker.zippers undoRedoTypeId).redo)

def TakesEffect (observed : Observed State Choices Body) : Work Body → Prop
  | .doCommand command => (faults.execution command observed.worker.world.2).1 = .applied
  | .tryUndo _ => True
  | .tryRedo undoRedoTypeId =>
      ∀ command ∈ (observed.worker.zippers undoRedoTypeId).redo.head?,
        (faults.execution command observed.worker.world.2).1 = .applied

structure Agrees (observed : Observed State Choices Body) : Prop where
  effective : observed.effective = observed.worker.zippers
  plain : ∀ undoRedoTypeId,
    (observed.worker.zippers undoRedoTypeId).All GenericCommand.IsPlain

variable {faults} {effects : Effects Body State}

theorem agrees_start (state : State) (choices : Choices) :
    Agrees (⟨Worker.start (state, choices), fun _ => Zipper.empty⟩ :
      Observed State Choices Body) :=
  ⟨rfl, fun _ => ⟨by simp [Zipper.empty], by simp [Zipper.empty]⟩⟩

theorem doCommand_reported {command : GenericCommand Body} (plain : command.IsPlain)
    (world : State × Choices) :
    ∃ after, (effects.program faults).doCommand command world = (.ok true, after) :=
  ⟨_, effects.doCommand_plain faults plain world.1 world.2⟩

theorem doQueued_move (effects : Effects Body State) (faults : Faults Body Choices)
    (worker : Worker (State × Choices) Body) {command : GenericCommand Body} (plain : command.IsPlain) :
    ∃ next, worker.doQueued (effects.program faults) command = some next ∧
      next.zippers = Zipper.move worker.zippers (.push command.undoRedoTypeId command) := by
  obtain ⟨after, done⟩ := doCommand_reported plain worker.world
  obtain ⟨next, performed, zippers, -⟩ := Worker.doQueued_of_done done
  exact ⟨next, performed, zippers⟩

theorem tryRedo_move (effects : Effects Body State) (faults : Faults Body Choices)
    (worker : Worker (State × Choices) Body) (undoRedoTypeId : UInt32)
    (plain : (worker.zippers undoRedoTypeId).All GenericCommand.IsPlain) :
    ∃ next, worker.tryRedo (effects.program faults) undoRedoTypeId = some next ∧
      next.zippers = Zipper.move worker.zippers (.forth undoRedoTypeId) := by
  cases stack : (worker.zippers undoRedoTypeId).redo with
  | nil =>
      refine ⟨worker, Worker.tryRedo_of_nil stack, ?_⟩
      simp [Zipper.move, Zipper.forth_nil stack]
  | cons command rest =>
      have redoable : command.IsPlain := plain.2 command (by simp [stack])
      obtain ⟨after, done⟩ := doCommand_reported redoable worker.world
      obtain ⟨next, performed, zippers, -⟩ := Worker.tryRedo_of_done stack done
      exact ⟨next, performed, zippers⟩

theorem tryUndo_move {worker next : Worker (State × Choices) Body} {undoRedoTypeId : UInt32}
    (plain : (worker.zippers undoRedoTypeId).All GenericCommand.IsPlain)
    (performed : worker.tryUndo (effects.program faults) undoRedoTypeId = some next) :
    next.zippers = Zipper.move worker.zippers (.back undoRedoTypeId) := by
  cases stack : (worker.zippers undoRedoTypeId).undo with
  | nil =>
      rw [Worker.tryUndo_of_nil stack] at performed
      obtain rfl := Option.some.inj performed
      simp [Zipper.move, Zipper.back_nil stack]
  | cons command rest =>
      have undoable : command.IsPlain := plain.1 command (by simp [stack])
      rcases ended : faults.undoFault command worker.world.2 with ⟨_ | error, choices⟩
      · have undone := effects.undoCommand_plain faults undoable worker.world.1 ended
        obtain ⟨other, same, zippers, -⟩ := Worker.tryUndo_of_undone stack undone
        rw [same] at performed
        obtain rfl := Option.some.inj performed
        exact zippers
      · have thrown := effects.undoCommand_plain_throws faults undoable worker.world.1 ended
        simp [Worker.tryUndo, Worker.undoBuffers_of_cons stack, thrown] at performed

theorem perform_move {observed : Observed State Choices Body} (agrees : observed.Agrees)
    {work : Work Body} (plain : work.IsPlain) {next : Worker (State × Choices) Body}
    (performed : observed.worker.perform (effects.program faults) work = some next) :
    next.zippers = Zipper.move observed.worker.zippers work.move := by
  cases work with
  | doCommand command =>
      obtain ⟨other, same, zippers⟩ := doQueued_move effects faults observed.worker plain
      rw [Worker.perform, same] at performed
      exact Option.some.inj performed ▸ zippers
  | tryUndo undoRedoTypeId => exact tryUndo_move (agrees.plain undoRedoTypeId) performed
  | tryRedo undoRedoTypeId =>
      obtain ⟨other, same, zippers⟩ := tryRedo_move effects faults observed.worker
        undoRedoTypeId (agrees.plain undoRedoTypeId)
      rw [Worker.perform, same] at performed
      exact Option.some.inj performed ▸ zippers

theorem record_of_takesEffect {observed : Observed State Choices Body}
    (agrees : observed.Agrees) {work : Work Body} (takes : TakesEffect faults observed work) :
    faults.record observed.effective observed.worker.world.2 work =
      Zipper.move observed.worker.zippers work.move := by
  rw [agrees.effective]
  cases work with
  | doCommand command =>
      have applied : (faults.execution command observed.worker.world.2).1 = .applied := takes
      simp [Faults.record, Work.move, applied]
  | tryUndo undoRedoTypeId => rfl
  | tryRedo undoRedoTypeId =>
      cases stack : (observed.worker.zippers undoRedoTypeId).redo with
      | nil => simp [Faults.record, Work.move, Zipper.move, stack, Zipper.forth_nil stack]
      | cons command rest =>
          have applied := takes command (by simp [stack])
          simp [Faults.record, Work.move, stack, applied]

theorem undo_of_not_takesEffect {observed : Observed State Choices Body}
    (agrees : observed.Agrees) {work : Work Body}
    (fails : ¬ TakesEffect faults observed work) :
    ∃ undoRedoTypeId command,
      (Zipper.move observed.worker.zippers work.move undoRedoTypeId).undo =
        command :: (faults.record observed.effective observed.worker.world.2 work
          undoRedoTypeId).undo := by
  rw [agrees.effective]
  cases work with
  | doCommand command =>
      have failed : (faults.execution command observed.worker.world.2).1 ≠ .applied := fails
      exact ⟨command.undoRedoTypeId, command, by
        simp [Faults.record, failed, Work.move, Zipper.move, Zipper.push]⟩
  | tryUndo undoRedoTypeId => exact absurd trivial fails
  | tryRedo undoRedoTypeId =>
      cases stack : (observed.worker.zippers undoRedoTypeId).redo with
      | nil => exact absurd (by simp [TakesEffect, stack]) fails
      | cons command rest =>
          have failed : (faults.execution command observed.worker.world.2).1 ≠ .applied := by
            simpa [TakesEffect, stack] using fails
          exact ⟨undoRedoTypeId, command, by
            simp [Faults.record, stack, failed, Work.move, Zipper.move,
              Zipper.forth_cons stack]⟩

theorem onlyEffective_iff (observed : Observed State Choices Body) (agrees : observed.Agrees)
    (work : Work Body) (plain : work.IsPlain) :
    Runs.After (step effects faults) (OnlyEffective faults) observed work ↔
      TakesEffect faults observed work := by
  apply Runs.after_iff
  · intro stuck
    rw [step, Option.map_eq_none_iff] at stuck
    cases work with
    | doCommand command =>
        obtain ⟨next, performed, -⟩ := doQueued_move effects faults observed.worker plain
        rw [Worker.perform, performed] at stuck
        cases stuck
    | tryUndo undoRedoTypeId => trivial
    | tryRedo undoRedoTypeId =>
        obtain ⟨next, performed, -⟩ := tryRedo_move effects faults observed.worker
          undoRedoTypeId (agrees.plain undoRedoTypeId)
        rw [Worker.perform, performed] at stuck
        cases stuck
  · intro next stepped
    obtain ⟨performed, moved, rfl⟩ := Option.map_eq_some_iff.mp stepped
    have zippers := perform_move agrees plain moved
    constructor
    · intro effective
      by_contra fails
      obtain ⟨undoRedoTypeId, command, longer⟩ := undo_of_not_takesEffect agrees fails
      have same := effective.1 undoRedoTypeId
      rw [zippers, longer] at same
      exact List.cons_ne_self _ _ same
    · intro takes
      refine ⟨?_, ?_⟩
      · intro undoRedoTypeId
        rw [zippers, record_of_takesEffect agrees takes]
      · intro failed
        cases work with
        | doCommand command => exact absurd takes failed
        | tryUndo undoRedoTypeId => exact failed.elim
        | tryRedo undoRedoTypeId => exact failed.elim

theorem agrees_step (observed : Observed State Choices Body) (work : Work Body)
    (agrees : observed.Agrees) (plain : work.IsPlain) (takes : TakesEffect faults observed work) :
    ∀ next ∈ step effects faults observed work, next.Agrees := by
  intro next stepped
  obtain ⟨performed, moved, rfl⟩ := Option.map_eq_some_iff.mp stepped
  have zippers := perform_move agrees plain moved
  refine ⟨?_, ?_⟩
  · rw [record_of_takesEffect agrees takes, zippers]
  · intro undoRedoTypeId
    rw [zippers]
    apply Zipper.all_move agrees.plain
    intro key command pushed
    cases work with
    | doCommand queued =>
        obtain ⟨-, rfl⟩ : queued.undoRedoTypeId = key ∧ queued = command := by
          simpa [Work.move] using pushed
        exact plain
    | tryUndo => cases pushed
    | tryRedo => cases pushed

/-- In a run of single commands, undos and redos, the undo stacks hold exactly what took effect
if and only if everything executed takes effect. -/
theorem only_effective_undoable_iff (effects : Effects Body State) (faults : Faults Body Choices)
    (state : State) (choices : Choices) (works : List (Work Body))
    (plain : ∀ work ∈ works, work.IsPlain) :
    Runs.Along (step effects faults)
        (Runs.After (step effects faults) (OnlyEffective faults))
        ⟨Worker.start (state, choices), fun _ => Zipper.empty⟩ works ↔
      Runs.Along (step effects faults) (TakesEffect faults)
        ⟨Worker.start (state, choices), fun _ => Zipper.empty⟩ works := by
  have given : Runs.Along (step effects faults) (fun _ work => work.IsPlain)
      ⟨Worker.start (state, choices), fun _ => Zipper.empty⟩ works :=
    Runs.along_of_forall fun _ work member => plain work member
  apply Runs.along_iff_of_invariant _ _ (agrees_start state choices) given
  · intro observed work agrees plain
    exact onlyEffective_iff observed agrees work plain
  · intro observed work agrees plain takes
    exact agrees_step observed work agrees plain takes

def doneOnce : List (Work Nat) := [.doCommand (.ofBody 1 false 4 7)]

theorem doneOnce_isPlain : ∀ work ∈ doneOnce, work.IsPlain := by
  intro work member
  obtain rfl := List.mem_singleton.mp member
  exact ⟨rfl, rfl⟩

theorem only_effective_undoable_iff_doneOnce :
    Runs.Along (step Effects.log .scripted)
        (Runs.After (step Effects.log .scripted) (OnlyEffective .scripted))
        ⟨Worker.start ([], [none]), fun _ => Zipper.empty⟩ doneOnce ↔
      Runs.Along (step Effects.log .scripted) (TakesEffect .scripted)
        ⟨Worker.start ([], [none]), fun _ => Zipper.empty⟩ doneOnce :=
  only_effective_undoable_iff Effects.log .scripted [] [none] doneOnce doneOnce_isPlain

/-- A command that a known error discards is undoable all the same. -/
theorem discarded_undoable_doneOnce :
    ¬ ∀ (Body State Choices : Type) (effects : Effects Body State) (faults : Faults Body Choices)
      (state : State) (choices : Choices) (works : List (Work Body)),
      (∀ work ∈ works, work.IsPlain) →
      Runs.Along (step effects faults)
        (Runs.After (step effects faults) (OnlyEffective faults))
        ⟨Worker.start (state, choices), fun _ => Zipper.empty⟩ works := by
  intro claim
  have run := claim Nat _ _ Effects.log .scripted [] [some (.knownError 1)] doneOnce
    doneOnce_isPlain
  have effective := run.1 _ rfl
  exact List.cons_ne_nil _ _ (effective.1 7)

end Observed

end LeanMiniViews
