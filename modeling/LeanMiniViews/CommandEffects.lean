import LeanMiniViews.CommandTree

/-!
Commands whose undo inverts what they do to a state, and executions that fail without an effect
on it.
-/

namespace LeanMiniViews

structure Effects (Body State : Type) where
  apply : GenericCommand Body → State → State
  revert : GenericCommand Body → State → State
  revert_apply : ∀ command state, revert command (apply command state) = state

/-- Which executions fail, and what the error handlers answer. `Choices` is whatever decides it. -/
structure Faults (Body Choices : Type) where
  doFault : GenericCommand Body → Choices → Option CommandError × Choices
  undoFault : GenericCommand Body → Choices → Option CommandError × Choices
  errorHandlers : UInt32 → Option (GenericCommand Body → Choices → ErrorAction × Choices)

namespace Faults

variable {Body Choices : Type}

def never : Faults Body Unit where
  doFault _ _ := (none, ())
  undoFault _ _ := (none, ())
  errorHandlers _ := none

def scripted : Faults Body (List (Option CommandError)) where
  doFault _ choices := (choices.headD none, choices.tail)
  undoFault _ choices := (choices.headD none, choices.tail)
  errorHandlers _ := none

def program (faults : Faults Body Choices) : Program Choices Body where
  doBody := faults.doFault
  undoBody := faults.undoFault
  errorHandlers := faults.errorHandlers
  commandListeners _ := []

def execution (faults : Faults Body Choices) (command : GenericCommand Body) :
    Choices → Program.Execution × Choices :=
  faults.program.execution command

end Faults

namespace Effects

variable {Body State Choices : Type} (effects : Effects Body State)

def log : Effects Body (List (GenericCommand Body)) where
  apply command applied := command :: applied
  revert _ applied := applied.tail
  revert_apply _ _ := rfl

def program (faults : Faults Body Choices) : Program (State × Choices) Body where
  doBody command world :=
    match faults.doFault command world.2 with
    | (none, choices) => (none, (effects.apply command world.1, choices))
    | (some error, choices) => (some error, (world.1, choices))
  undoBody command world :=
    match faults.undoFault command world.2 with
    | (none, choices) => (none, (effects.revert command world.1, choices))
    | (some error, choices) => (some error, (world.1, choices))
  errorHandlers errorId :=
    (faults.errorHandlers errorId).map fun handleException command world =>
      let (action, choices) := handleException command world.2
      (action, (world.1, choices))
  commandListeners _ := []

def afterExecution (command : GenericCommand Body) (state : State) : Program.Execution → State
  | .applied => effects.apply command state
  | .ignored => state
  | .discarded => state

def applyAll (commands : List (GenericCommand Body)) (state : State) : State :=
  commands.foldl (fun current command => effects.apply command current) state

def revertAll (commands : List (GenericCommand Body)) (state : State) : State :=
  commands.foldl (fun current command => effects.revert command current) state

@[simp] theorem applyAll_nil (state : State) : effects.applyAll [] state = state := rfl

@[simp] theorem applyAll_cons (command : GenericCommand Body)
    (rest : List (GenericCommand Body)) (state : State) :
    effects.applyAll (command :: rest) state =
      effects.applyAll rest (effects.apply command state) := rfl

theorem applyAll_append (first second : List (GenericCommand Body)) (state : State) :
    effects.applyAll (first ++ second) state =
      effects.applyAll second (effects.applyAll first state) :=
  List.foldl_append

@[simp] theorem revertAll_cons (command : GenericCommand Body)
    (rest : List (GenericCommand Body)) (state : State) :
    effects.revertAll (command :: rest) state =
      effects.revertAll rest (effects.revert command state) := rfl

/-! One execution. -/

variable (faults : Faults Body Choices)

theorem handleError_eq (command : GenericCommand Body) (errorId : UInt32) (state : State)
    (choices : Choices) :
    (effects.program faults).handleError command errorId (state, choices) =
      ((faults.program.handleError command errorId choices).1,
        (state, (faults.program.handleError command errorId choices).2)) := by
  simp only [Program.handleError, program, Faults.program]
  cases faults.errorHandlers errorId with
  | none => rfl
  | some handleException => rfl

def executed (command : GenericCommand Body) (state : State)
    (ended : Program.Execution × Choices) : Program.Execution × (State × Choices) :=
  (ended.1, (effects.afterExecution command state ended.1, ended.2))

theorem executionOr_eq {again : State × Choices → Program.Execution × (State × Choices)}
    {retried : Choices → Program.Execution × Choices} {command : GenericCommand Body}
    {state : State}
    (agrees : ∀ choices,
      again (state, choices) = effects.executed command state (retried choices))
    (choices : Choices) :
    (effects.program faults).executionOr again command (state, choices) =
      effects.executed command state (faults.program.executionOr retried command choices) := by
  have body : (effects.program faults).doBody command (state, choices) =
      match faults.doFault command choices with
      | (none, next) => (none, (effects.apply command state, next))
      | (some error, next) => (some error, (state, next)) := rfl
  have choice : faults.program.doBody command choices = faults.doFault command choices := rfl
  unfold Program.executionOr
  rw [body, choice]
  rcases faults.doFault command choices with ⟨_ | _ | _, next⟩
  · rfl
  · rename_i errorId
    simp only [handleError_eq]
    rcases faults.program.handleError command errorId next with ⟨_ | _ | _ | _, handled⟩
    · rfl
    · exact agrees handled
    · rfl
    · rfl
  · rfl

theorem execution_eq (command : GenericCommand Body) (state : State) (choices : Choices) :
    (effects.program faults).execution command (state, choices) =
      effects.executed command state (faults.execution command choices) := by
  apply effects.executionOr_eq faults
  intro retrying
  apply effects.executionOr_eq faults
  intro givingUp
  rfl

theorem doDo_eq (command : GenericCommand Body) (state : State) (choices : Choices) :
    (effects.program faults).doDo command false (state, choices) =
      (.ok ((faults.execution command choices).1 != .discarded),
        (effects.afterExecution command state (faults.execution command choices).1,
          (faults.execution command choices).2)) := by
  rw [Program.doDo_eq, execution_eq]
  rfl

theorem notifying_eq (action : Action (State × Choices) Bool) (command : GenericCommand Body) :
    (effects.program faults).notifying action command = action := by
  funext world
  unfold Program.notifying
  split
  · rename_i finished
    rw [finished]
    rfl
  · rfl

theorem doCommand_plain {command : GenericCommand Body} (plain : command.IsPlain) (state : State)
    (choices : Choices) :
    (effects.program faults).doCommand command (state, choices) =
      (.ok true, (effects.afterExecution command state (faults.execution command choices).1,
        (faults.execution command choices).2)) := by
  rw [Program.doCommand, notifying_eq,
    (effects.program faults).doCommandUnder_plainBody plain.2 plain.1, Program.thenTrue, doDo_eq]

theorem undoCommand_plain {command : GenericCommand Body} (plain : command.IsPlain)
    (state : State) {choices next : Choices}
    (undone : faults.undoFault command choices = (none, next)) :
    (effects.program faults).undoCommand command (state, choices) =
      (.ok true, (effects.revert command state, next)) := by
  have reverted : (effects.program faults).undoBody command (state, choices) =
      (none, (effects.revert command state, next)) := by
    simp [program, undone]
  rw [Program.undoCommand, notifying_eq,
    (effects.program faults).undoCommandUnder_plainBody plain.2 plain.1, Program.thenTrue,
    Program.undoPlain, reverted]

theorem undoCommand_plain_throws {command : GenericCommand Body} (plain : command.IsPlain)
    (state : State) {choices next : Choices} {error : CommandError}
    (failed : faults.undoFault command choices = (some error, next)) :
    (effects.program faults).undoCommand command (state, choices) =
      (.error (.error error), (state, next)) := by
  have thrown : (effects.program faults).undoBody command (state, choices) =
      (some error, (state, next)) := by
    simp [program, failed]
  rw [Program.undoCommand, notifying_eq,
    (effects.program faults).undoCommandUnder_plainBody plain.2 plain.1, Program.thenTrue,
    Program.undoPlain, thrown]

end Effects

end LeanMiniViews
