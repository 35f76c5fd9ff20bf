import LeanMiniViews.AcidAtomicity
import LeanMiniViews.Containment
import LeanMiniViews.History

/-!
Undoing what `DoAcid` queued. The parent command is filed under no type and its undo does
nothing, so an undo of the type given to `DoAcid` finds an older command or none.
-/

namespace LeanMiniViews

namespace GenericCommand

variable {Body : Type}

def undoneLeaves (command : GenericCommand Body) : List (GenericCommand Body) :=
  command.units.filter fun unit => !unit.subCommandsAreAcid

theorem leaves_eq_units (command : GenericCommand Body) :
    command.leaves = command.units.flatMap leaves := by
  induction command using subCommandsInduction with
  | step command ih =>
      by_cases alone : command.IsUnit
      · simp [units_of_isUnit alone]
      · have some : command.subCommands ≠ [] := (not_or.mp alone).2
        rw [units_of_composite alone, leaves_of_subCommands some, List.flatMap_assoc]
        exact List.flatMap_congr ih

end GenericCommand

namespace Effects

variable {Body State : Type} (effects : Effects Body State)

/-! Commands that never fail. -/

theorem allApplied_never (leaves : List (GenericCommand Body)) :
    (Faults.never : Faults Body Unit).AllApplied leaves () := by
  induction leaves with
  | nil => trivial
  | cons leaf rest ih => exact ⟨rfl, ih⟩

theorem doUnit_never {unit : GenericCommand Body} (alone : unit.IsUnit) (state : State) :
    (effects.program .never).doCommandUnder unit false (state, ()) =
      (.ok true, (effects.applyAll unit.leaves state, ())) := by
  by_cases acid : unit.subCommandsAreAcid = true
  · obtain ⟨last, run⟩ := effects.acidRun_applied .never false state
      (allApplied_never unit.leaves)
    rw [(effects.program .never).doCommandUnder_eq_acidRun unit false (by simp [acid])]
    exact run
  · have none : unit.subCommands = [] := alone.resolve_left acid
    rw [(effects.program .never).doCommandUnder_plainBody (Bool.eq_false_iff.mpr acid) none,
      Program.thenTrue, doDo_eq, GenericCommand.leaves_of_body none]
    rfl

theorem doUnits_never {units : List (GenericCommand Body)}
    (alone : ∀ unit ∈ units, unit.IsUnit) (state : State) :
    Program.sequence (fun unit =>
        Program.thrownBy ((effects.program .never).doCommandUnder unit false)) units (state, ()) =
      (none, (effects.applyAll (units.flatMap GenericCommand.leaves) state, ())) := by
  induction units generalizing state with
  | nil => rfl
  | cons unit rest ih =>
      have later := ih fun other member => alone other (List.mem_cons_of_mem _ member)
      simp only [Program.sequence, Program.thrownBy,
        effects.doUnit_never (alone unit List.mem_cons_self) state, List.flatMap_cons,
        applyAll_append]
      exact later _

theorem undoUnits_never {units : List (GenericCommand Body)}
    (alone : ∀ unit ∈ units, unit.IsUnit) (state : State) :
    Program.sequence (fun unit =>
        Program.thrownBy ((effects.program .never).undoCommandUnder unit false)) units
        (state, ()) =
      (none, (effects.revertAll (units.filter fun unit => !unit.subCommandsAreAcid) state,
        ())) := by
  induction units generalizing state with
  | nil => rfl
  | cons unit rest ih =>
      have later := ih fun other member => alone other (List.mem_cons_of_mem _ member)
      have fits : unit.subCommandsAreAcid = true ∨
          ((effects.program .never).undoBody unit (state, ())).1 = none := Or.inr rfl
      rw [Program.sequence,
        (effects.program .never).undoUnit_passes (alone unit List.mem_cons_self) fits]
      cases acid : unit.subCommandsAreAcid with
      | true =>
          rw [List.filter_cons_of_neg (by simp [acid])]
          exact later state
      | false =>
          rw [List.filter_cons_of_pos (by simp [acid]), revertAll_cons]
          exact later (effects.revert unit state)

theorem ok_of_thrownBy {Result World : Type} {action : Action World Result} {world next : World}
    (returned : Program.thrownBy (Program.thenTrue action) world = (none, next)) :
    Program.thenTrue action world = (.ok true, next) := by
  rw [Program.thrownBy_thenTrue] at returned
  unfold Program.thrownBy at returned
  unfold Program.thenTrue
  rcases outcome : action world with ⟨thrown | done, last⟩
  · simp [outcome] at returned
  · simpa [outcome] using returned

theorem doCommand_never (command : GenericCommand Body) (state : State) :
    (effects.program .never).doCommand command (state, ()) =
      (.ok true, (effects.applyAll command.leaves state, ())) := by
  rw [Program.doCommand, notifying_eq]
  by_cases alone : command.IsUnit
  · exact effects.doUnit_never alone state
  · obtain ⟨plain, some⟩ := not_or.mp alone
    have run := (effects.program .never).doCommandUnder_units command (state, ())
    rw [effects.doUnits_never (GenericCommand.isUnit_of_mem_units command) state,
      ← GenericCommand.leaves_eq_units] at run
    rw [(effects.program .never).doCommandUnder_plain (Bool.eq_false_iff.mpr plain) some] at run ⊢
    exact ok_of_thrownBy run

theorem undoCommand_never {command : GenericCommand Body}
    (plain : command.subCommandsAreAcid = false) (state : State) :
    (effects.program .never).undoCommand command (state, ()) =
      (.ok true, (effects.revertAll command.undoneLeaves state, ())) := by
  have run := (effects.program .never).undoCommandUnder_units command (state, ())
  rw [effects.undoUnits_never (GenericCommand.isUnit_of_mem_units command) state] at run
  rw [Program.undoCommand, notifying_eq]
  by_cases none : command.subCommands = []
  · rw [(effects.program .never).undoCommandUnder_plainBody plain none] at run ⊢
    exact ok_of_thrownBy run
  · rw [(effects.program .never).undoCommandUnder_plain plain none] at run ⊢
    exact ok_of_thrownBy run

theorem undoCommand_acid {command : GenericCommand Body}
    (acid : command.subCommandsAreAcid = true) (state : State) :
    (effects.program .never).undoCommand command (state, ()) = (.ok false, (state, ())) := by
  rw [Program.undoCommand, notifying_eq]
  exact (effects.program .never).undoCommandUnder_inert command false (by simp [acid]) _

end Effects

namespace Worker

variable {Body State : Type}

section Instead

variable (worker : Worker (State × Unit) Body) (undoRedoTypeId : UInt32)

/-- The older command that an undo of this type undoes, after an ACID command was queued. Under
the type of the parent itself there is none: the parent is on top. -/
def undoneInstead : Option (GenericCommand Body) :=
  if undoRedoTypeId = uint32Max then none
  else (worker.zippers undoRedoTypeId).undo.head?.filter fun older => !older.subCommandsAreAcid

def redoneInstead : Option (GenericCommand Body) :=
  if undoRedoTypeId = uint32Max then none else (worker.zippers undoRedoTypeId).redo.head?

end Instead

variable (effects : Effects Body State) (worker : Worker (State × Unit) Body)

/-- The worker executes what `DoAcid` queued, an undo and a redo: the undo gives the state before
the command and the redo the state after it. -/
def AcidUndone (command : GenericCommand Body) (undoRedoTypeId : UInt32) : Prop :=
  ∃ done undone redone,
    worker.perform (effects.program .never) (.doCommand command) = some done ∧
    done.perform (effects.program .never) (.tryUndo undoRedoTypeId) = some undone ∧
    undone.perform (effects.program .never) (.tryRedo undoRedoTypeId) = some redone ∧
    undone.world.1 = worker.world.1 ∧ redone.world.1 = done.world.1

/-- The state `before` the sub-commands and the one `after` them are no different, and a redo
does not change it; or an older command, undone instead, leads from one to the other. -/
def HappensToRestore (before after : State) (undoRedoTypeId : UInt32) : Prop :=
  match worker.undoneInstead undoRedoTypeId with
  | some older =>
      effects.revertAll older.undoneLeaves after = before ∧
        effects.applyAll older.leaves before = after
  | none =>
      after = before ∧
        ∀ newer ∈ worker.redoneInstead undoRedoTypeId, effects.applyAll newer.leaves after = after

theorem tryRedo_never (undoRedoTypeId : UInt32) :
    ∃ redone, worker.tryRedo (effects.program .never) undoRedoTypeId = some redone ∧
      redone.world.1 =
        effects.applyAll ((worker.zippers undoRedoTypeId).redo.head?.elim [] (·.leaves))
          worker.world.1 := by
  cases stack : (worker.zippers undoRedoTypeId).redo with
  | nil => exact ⟨worker, tryRedo_of_nil stack, rfl⟩
  | cons command rest =>
      obtain ⟨redone, performed, -, world⟩ :=
        tryRedo_of_done stack (effects.doCommand_never command worker.world.1)
      exact ⟨redone, performed, congrArg Prod.fst world⟩

variable {worker}

theorem tryUndo_inert {undoRedoTypeId : UInt32}
    (inert : ∀ command ∈ (worker.zippers undoRedoTypeId).undo.head?,
      command.subCommandsAreAcid = true) :
    ∃ undone, worker.tryUndo (effects.program .never) undoRedoTypeId = some undone ∧
      (undone.zippers undoRedoTypeId).redo = (worker.zippers undoRedoTypeId).redo ∧
      undone.world.1 = worker.world.1 := by
  cases stack : (worker.zippers undoRedoTypeId).undo with
  | nil => exact ⟨worker, tryUndo_of_nil stack, rfl, rfl⟩
  | cons command rest =>
      have acid : command.subCommandsAreAcid = true := inert command (by simp [stack])
      obtain ⟨undone, performed, zippers, world⟩ :=
        tryUndo_of_refused stack (effects.undoCommand_acid acid worker.world.1)
      refine ⟨undone, performed, ?_, congrArg Prod.fst world⟩
      rw [zippers, Function.update_self]

theorem tryUndo_plain {undoRedoTypeId : UInt32} {older : GenericCommand Body}
    {rest : List (GenericCommand Body)}
    (top : (worker.zippers undoRedoTypeId).undo = older :: rest)
    (plain : older.subCommandsAreAcid = false) :
    ∃ undone, worker.tryUndo (effects.program .never) undoRedoTypeId = some undone ∧
      (undone.zippers undoRedoTypeId).redo.head? = some older ∧
      undone.world.1 = effects.revertAll older.undoneLeaves worker.world.1 := by
  obtain ⟨undone, performed, zippers, world⟩ :=
    tryUndo_of_undone top (effects.undoCommand_never plain worker.world.1)
  refine ⟨undone, performed, ?_, congrArg Prod.fst world⟩
  rw [zippers, Zipper.move, Function.update_self, Zipper.back_cons top]
  rfl

theorem doQueued_acid (worker : Worker (State × Unit) Body) (command : GenericCommand Body)
    (filed : command.undoRedoTypeId = uint32Max) :
    ∃ done, worker.doQueued (effects.program .never) command = some done ∧
      done.world.1 = effects.applyAll command.leaves worker.world.1 ∧
      (done.zippers uint32Max).undo.head? = some command ∧
      (done.zippers uint32Max).redo = [] ∧
      ∀ other, other ≠ uint32Max → done.zippers other = worker.zippers other := by
  obtain ⟨done, performed, zippers, world⟩ :=
    doQueued_of_done (effects.doCommand_never command worker.world.1)
  rw [filed] at zippers
  refine ⟨done, performed, congrArg Prod.fst world, ?_, ?_, ?_⟩
  · simp [zippers, Zipper.move, Zipper.push]
  · simp [zippers, Zipper.move, Zipper.push]
  · intro other different
    rw [zippers, Zipper.move, Function.update_of_ne different]

variable {effects}

theorem acidUndone_iff {command : GenericCommand Body} {undoRedoTypeId : UInt32}
    {done undone redone : Worker (State × Unit) Body}
    (doing : worker.doQueued (effects.program .never) command = some done)
    (undoing : done.tryUndo (effects.program .never) undoRedoTypeId = some undone)
    (redoing : undone.tryRedo (effects.program .never) undoRedoTypeId = some redone) :
    worker.AcidUndone effects command undoRedoTypeId ↔
      undone.world.1 = worker.world.1 ∧ redone.world.1 = done.world.1 := by
  constructor
  · rintro ⟨done', undone', redone', doing', undoing', redoing', restored⟩
    rw [perform, doing] at doing'
    obtain rfl := Option.some.inj doing'
    rw [perform, undoing] at undoing'
    obtain rfl := Option.some.inj undoing'
    rw [perform, redoing] at redoing'
    obtain rfl := Option.some.inj redoing'
    exact restored
  · intro restored
    exact ⟨done, undone, redone, doing, undoing, redoing, restored⟩

theorem acidUndone_inert_iff {command : GenericCommand Body} {undoRedoTypeId : UInt32}
    {done : Worker (State × Unit) Body}
    (doing : worker.doQueued (effects.program .never) command = some done)
    (inert : ∀ top ∈ (done.zippers undoRedoTypeId).undo.head?, top.subCommandsAreAcid = true) :
    worker.AcidUndone effects command undoRedoTypeId ↔
      done.world.1 = worker.world.1 ∧
        ∀ newer ∈ (done.zippers undoRedoTypeId).redo.head?,
          effects.applyAll newer.leaves done.world.1 = done.world.1 := by
  obtain ⟨undone, undoing, redo, unchanged⟩ := tryUndo_inert effects inert
  obtain ⟨redone, redoing, world⟩ :=
    tryRedo_never effects undone undoRedoTypeId
  rw [acidUndone_iff doing undoing redoing, world, redo, unchanged]
  apply and_congr_right
  intro _
  cases (done.zippers undoRedoTypeId).redo.head? with
  | none => simp
  | some newer => simp

/-- An ACID command is undone and redone exactly where that is no matter of its own undo. -/
theorem acid_restored_iff (effects : Effects Body State) (worker : Worker (State × Unit) Body)
    (body : Body) (subCommands : List (GenericCommand Body)) (undoRedoTypeId : UInt32)
    (async : Bool) (some : subCommands ≠ []) :
    worker.AcidUndone effects (.acidParent body subCommands undoRedoTypeId async)
        undoRedoTypeId ↔
      worker.HappensToRestore effects worker.world.1
        (effects.applyAll (subCommands.flatMap GenericCommand.leaves) worker.world.1)
        undoRedoTypeId := by
  have leaves : (GenericCommand.acidParent body subCommands undoRedoTypeId async).leaves =
      subCommands.flatMap GenericCommand.leaves := GenericCommand.leaves_of_subCommands some
  obtain ⟨done, doing, world, top, clipped, others⟩ :=
    doQueued_acid effects worker (.acidParent body subCommands undoRedoTypeId async) rfl
  rw [leaves] at world
  rw [HappensToRestore, ← world]
  by_cases filed : undoRedoTypeId = uint32Max
  · have inert : ∀ command ∈ (done.zippers undoRedoTypeId).undo.head?,
        command.subCommandsAreAcid = true := by
      intro command member
      rw [filed, top] at member
      exact Option.some.inj member ▸ rfl
    rw [acidUndone_inert_iff doing inert]
    simp [undoneInstead, redoneInstead, filed, clipped]
  · rw [undoneInstead, redoneInstead, if_neg filed, if_neg filed, ← others _ filed]
    cases stack : (done.zippers undoRedoTypeId).undo with
    | nil =>
        rw [acidUndone_inert_iff doing (by simp [stack])]
        simp
    | cons older rest =>
        cases acid : older.subCommandsAreAcid with
        | true =>
            have skipped : (Option.some older).filter (fun older => !older.subCommandsAreAcid) =
                none := by simp [acid]
            rw [acidUndone_inert_iff doing (by simp [stack, acid]), List.head?_cons, skipped]
        | false =>
            obtain ⟨undone, undoing, redo, reverted⟩ :=
              tryUndo_plain effects stack acid
            obtain ⟨redone, redoing, applied⟩ :=
              tryRedo_never effects undone undoRedoTypeId
            rw [acidUndone_iff doing undoing redoing, applied, redo, reverted]
            simp only [List.head?_cons, Option.filter_some, acid, Bool.not_false, ↓reduceIte,
              Option.elim_some]
            apply and_congr_right
            intro restored
            rw [restored]

theorem acid_restored_iff_acidOne :
    (start ([], ()) : Worker (List (GenericCommand Nat) × Unit) Nat).AcidUndone Effects.log
        (.acidParent 0 [.ofBody 1 false 4 7] 7 false) 7 ↔
      (start ([], ())).HappensToRestore Effects.log []
        (Effects.log.applyAll ([GenericCommand.ofBody 1 false 4 7].flatMap GenericCommand.leaves)
          []) 7 :=
  acid_restored_iff Effects.log (start ([], ())) 0 [.ofBody 1 false 4 7] 7 false (by simp)

theorem acid_not_undone_newWorker :
    ¬ ∀ (Body State : Type) (effects : Effects Body State) (worker : Worker (State × Unit) Body)
      (body : Body) (subCommands : List (GenericCommand Body)) (undoRedoTypeId : UInt32)
      (async : Bool), subCommands ≠ [] →
      worker.AcidUndone effects (.acidParent body subCommands undoRedoTypeId async)
        undoRedoTypeId := by
  intro claim
  have undone := claim Nat _ Effects.log (start ([], ())) 0 [.ofBody 1 false 4 7] 7 false
    (by simp)
  obtain ⟨done, undone, redone, doing, undoing, -, restored, -⟩ := undone
  obtain rfl := Option.some.inj doing
  obtain rfl := Option.some.inj undoing
  exact List.cons_ne_nil _ _ restored

end Worker

end LeanMiniViews
