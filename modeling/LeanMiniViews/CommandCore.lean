import Mathlib.Data.List.Basic

/-!
Commands and how the worker thread performs them. A command either overrides `Do` and `Undo`
itself, which is its `body` here, or consists of sub-commands. `World` is everything the bodies,
the error handlers and the listeners can read and change.
-/

namespace LeanMiniViews

inductive ReservedCommandClassIds where
  | genericUndoCommand
  | genericRedoCommand
  | killCommanderCommand
  | acidCommandParent
  | firstUnreservedCommand

def ReservedCommandClassIds.id : ReservedCommandClassIds → UInt32
  | .genericUndoCommand => 0
  | .genericRedoCommand => 1
  | .killCommanderCommand => 2
  | .acidCommandParent => 3
  | .firstUnreservedCommand => 4

def uint32Max : UInt32 := 0xFFFFFFFF

inductive GenericCommand (Body : Type) where
  | mk (commandClassId undoRedoTypeId : UInt32) (isSynchronous subCommandsAreAcid : Bool)
      (body : Body) (subCommands : List (GenericCommand Body))

namespace GenericCommand

variable {Body : Type}

def commandClassId : GenericCommand Body → UInt32
  | mk commandClassId _ _ _ _ _ => commandClassId

def undoRedoTypeId : GenericCommand Body → UInt32
  | mk _ undoRedoTypeId _ _ _ _ => undoRedoTypeId

def isSynchronous : GenericCommand Body → Bool
  | mk _ _ isSynchronous _ _ _ => isSynchronous

def subCommandsAreAcid : GenericCommand Body → Bool
  | mk _ _ _ subCommandsAreAcid _ _ => subCommandsAreAcid

def body : GenericCommand Body → Body
  | mk _ _ _ _ body _ => body

def subCommands : GenericCommand Body → List (GenericCommand Body)
  | mk _ _ _ _ _ subCommands => subCommands

def ofBody (body : Body) (isSynchronous : Bool) (commandClassId undoRedoTypeId : UInt32) :
    GenericCommand Body :=
  mk commandClassId undoRedoTypeId isSynchronous false body []

def ofSubCommands (body : Body) (subCommands : List (GenericCommand Body))
    (isSynchronous subCommandsAreAcid : Bool) (commandClassId undoRedoTypeId : UInt32) :
    GenericCommand Body :=
  mk commandClassId undoRedoTypeId isSynchronous subCommandsAreAcid body subCommands

/-- What `DoAcid` queues. The type it is given goes nowhere, and the flag that makes a command
synchronous is `async`. -/
def acidParent (body : Body) (subCommands : List (GenericCommand Body))
    (_undoRedoTypeid : UInt32) (async : Bool) : GenericCommand Body :=
  ofSubCommands body subCommands async true ReservedCommandClassIds.acidCommandParent.id uint32Max

end GenericCommand

inductive CommandError where
  | knownError (errorId : UInt32)
  | exception
  deriving DecidableEq, Repr

/-- What may leave a member function of `Commander`. `AcidRollbackFailure` is thrown as a pointer,
which no `catch` of the class takes. -/
inductive Thrown where
  | error (error : CommandError)
  | acidRollbackFailure
  deriving DecidableEq, Repr

inductive ErrorAction where
  | discardCommand
  | retryCommand
  | retrySubCommand
  | continueCommand
  deriving DecidableEq, Repr

abbrev Action (World Result : Type) := World → Except Thrown Result × World

structure Program (World Body : Type) where
  doBody : GenericCommand Body → World → Option CommandError × World
  undoBody : GenericCommand Body → World → Option CommandError × World
  errorHandlers : UInt32 → Option (GenericCommand Body → World → ErrorAction × World)
  commandListeners : UInt32 → List (GenericCommand Body → World → World)

namespace Program

variable {World Body : Type} (program : Program World Body)

def handleError (command : GenericCommand Body) (errorId : UInt32) (world : World) :
    ErrorAction × World :=
  match program.errorHandlers errorId with
  | some handleException => handleException command world
  | none => (.discardCommand, world)

def notifyCommandFinished (command : GenericCommand Body) (world : World) : World :=
  (program.commandListeners command.commandClassId).foldl
    (fun current listen => listen command current) world

def doDoOr (again : Action World Bool) (command : GenericCommand Body) : Action World Bool :=
  fun world =>
    match program.doBody command world with
    | (none, next) => (.ok true, next)
    | (some .exception, next) => (.ok true, next)
    | (some (.knownError errorId), next) =>
        match program.handleError command errorId next with
        | (.retryCommand, handled) => again handled
        | (_, handled) => (.ok false, handled)

def doDo (command : GenericCommand Body) (retrying : Bool) : Action World Bool :=
  let giveUp : Action World Bool := fun world => (.ok false, world)
  let retry := program.doDoOr giveUp command
  if retrying then retry else program.doDoOr retry command

/-- The call of `Undo` that `UndoCommand` makes itself, outside any `try`. -/
def undoPlain (command : GenericCommand Body) : Action World Unit := fun world =>
  match program.undoBody command world with
  | (none, next) => (.ok (), next)
  | (some error, next) => (.error (.error error), next)

/-- The `try` of the ACID loops: what `attempt` returns, or what `again` returns where a known
error is to be retried, or failure. `blamed` is the command the second error is reported for. -/
def guarded (command blamed : GenericCommand Body) (attempt again : Action World Bool) :
    Action World Bool := fun world =>
  match attempt world with
  | (.error (.error (.knownError errorId)), next) =>
      match program.handleError command errorId next with
      | (.retryCommand, handled) =>
          match again handled with
          | (.error (.error (.knownError errorId)), last) =>
              (.ok false, (program.handleError blamed errorId last).2)
          | (.error (.error .exception), last) => (.ok false, last)
          | outcome => outcome
      | (_, handled) => (.ok false, handled)
  | (.error (.error .exception), next) => (.ok false, next)
  | outcome => outcome

structure Methods (World Body : Type) where
  command : GenericCommand Body
  doCommand : Bool → Action World Bool
  undoCommand : Bool → Action World Bool

/-- The result of the retry in a rollback goes to `success`, which nothing reads there. -/
def discarding (attempt : Action World Bool) : Action World Bool := fun world =>
  match attempt world with
  | (.ok _, next) => (.ok false, next)
  | outcome => outcome

def rollBack (forward backward : Methods World Body → Action World Bool) :
    List (Methods World Body) → Action World Bool
  | [], world => (.ok false, world)
  | previous :: earlier, world =>
      match program.guarded previous.command previous.command (backward previous)
          (discarding (forward previous)) world with
      | (.ok true, next) => rollBack forward backward earlier next
      | (.ok false, next) => (.error .acidRollbackFailure, next)
      | outcome => outcome

def acidSubItems (blamed : Methods World Body → GenericCommand Body)
    (forward backward : Methods World Body → Action World Bool) :
    List (Methods World Body) → List (Methods World Body) → Action World Bool
  | _, [], world => (.ok true, world)
  | passed, subCommand :: rest, world =>
      match program.guarded subCommand.command (blamed subCommand) (forward subCommand)
          (forward subCommand) world with
      | (.ok true, next) => acidSubItems blamed forward backward (subCommand :: passed) rest next
      | (.ok false, next) => program.rollBack forward backward passed next
      | outcome => outcome

def doAcidSubItems (subCommands : List (Methods World Body)) : Action World Bool :=
  program.acidSubItems Methods.command (fun subCommand => subCommand.doCommand true)
    (fun subCommand => subCommand.undoCommand true) [] subCommands

/-- The rollback of an undo does the passed sub-commands again. A second error of the retry is
reported for the parent. -/
def undoAcidSubItems (command : GenericCommand Body) (subCommands : List (Methods World Body)) :
    Action World Bool :=
  program.acidSubItems (fun _ => command) (fun subCommand => subCommand.undoCommand true)
    (fun subCommand => subCommand.doCommand true) [] subCommands.reverse

def eachSubItem (run : Methods World Body → Action World Bool) :
    List (Methods World Body) → Action World Unit
  | [], world => (.ok (), world)
  | subCommand :: rest, world =>
      match run subCommand world with
      | (.ok _, next) => eachSubItem run rest next
      | (.error thrown, next) => (.error thrown, next)

def doSubItems (subCommands : List (Methods World Body)) : Action World Unit :=
  eachSubItem (fun subCommand => subCommand.doCommand false) subCommands

/-- The sub-commands are undone in the order in which they are done. -/
def undoSubItems (subCommands : List (Methods World Body)) : Action World Unit :=
  eachSubItem (fun subCommand => subCommand.undoCommand false) subCommands

def thenTrue {Result : Type} (action : Action World Result) : Action World Bool := fun world =>
  match action world with
  | (.ok _, next) => (.ok true, next)
  | (.error thrown, next) => (.error thrown, next)

def dispatch (command : GenericCommand Body) (subCommands : List (Methods World Body)) :
    Methods World Body where
  command := command
  doCommand hasAcidParent :=
    if hasAcidParent || command.subCommandsAreAcid then
      if subCommands.isEmpty then program.doDo command false
      else program.doAcidSubItems subCommands
    else if subCommands.isEmpty then thenTrue (program.doDo command false)
    else thenTrue (doSubItems subCommands)
  undoCommand hasAcidParent :=
    if hasAcidParent || command.subCommandsAreAcid then
      if subCommands.isEmpty then fun world => (.ok false, world)
      else program.undoAcidSubItems command subCommands
    else if subCommands.isEmpty then thenTrue (program.undoPlain command)
    else thenTrue (undoSubItems subCommands)

mutual

def methods : GenericCommand Body → Methods World Body
  | .mk commandClassId undoRedoTypeId isSynchronous subCommandsAreAcid body subCommands =>
      program.dispatch
        (.mk commandClassId undoRedoTypeId isSynchronous subCommandsAreAcid body subCommands)
        (methodsOfAll subCommands)

def methodsOfAll : List (GenericCommand Body) → List (Methods World Body)
  | [] => []
  | command :: rest => methods command :: methodsOfAll rest

end

def doCommandUnder (command : GenericCommand Body) (hasAcidParent : Bool) : Action World Bool :=
  (program.methods command).doCommand hasAcidParent

def undoCommandUnder (command : GenericCommand Body) (hasAcidParent : Bool) :
    Action World Bool :=
  (program.methods command).undoCommand hasAcidParent

def notifying (action : Action World Bool) (command : GenericCommand Body) : Action World Bool :=
  fun world =>
    match action world with
    | (.ok true, next) => (.ok true, program.notifyCommandFinished command next)
    | outcome => outcome

def doCommand (command : GenericCommand Body) : Action World Bool :=
  program.notifying (program.doCommandUnder command false) command

def undoCommand (command : GenericCommand Body) : Action World Bool :=
  program.notifying (program.undoCommandUnder command false) command

end Program

end LeanMiniViews
