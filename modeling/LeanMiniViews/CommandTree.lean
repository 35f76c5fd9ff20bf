import LeanMiniViews.CommandCore

/-!
Trees of commands by their leaves. Under an ACID parent the tree does no more than to execute its
leaves one after the other, and its undo does nothing at all, so a rollback has no effect but to
throw.
-/

namespace LeanMiniViews

namespace GenericCommand

variable {Body : Type}

def IsPlain (command : GenericCommand Body) : Prop :=
  command.subCommands = [] ∧ command.subCommandsAreAcid = false

theorem subCommandsInduction {motive : GenericCommand Body → Prop}
    (step : ∀ command, (∀ subCommand ∈ command.subCommands, motive subCommand) → motive command)
    (command : GenericCommand Body) : motive command := by
  refine @GenericCommand.rec Body motive (fun commands => ∀ other ∈ commands, motive other)
    ?_ ?_ ?_ command
  · intro commandClassId undoRedoTypeId isSynchronous subCommandsAreAcid body subCommands all
    exact step _ all
  · intro other member
    cases member
  · intro first rest ofFirst ofRest other member
    rcases List.mem_cons.mp member with rfl | later
    · exact ofFirst
    · exact ofRest other later

mutual

def leaves : GenericCommand Body → List (GenericCommand Body)
  | .mk commandClassId undoRedoTypeId isSynchronous subCommandsAreAcid body [] =>
      [.mk commandClassId undoRedoTypeId isSynchronous subCommandsAreAcid body []]
  | .mk _ _ _ _ _ (first :: rest) => leaves first ++ leavesOfAll rest

def leavesOfAll : List (GenericCommand Body) → List (GenericCommand Body)
  | [] => []
  | command :: rest => leaves command ++ leavesOfAll rest

end

theorem leavesOfAll_eq (commands : List (GenericCommand Body)) :
    leavesOfAll commands = commands.flatMap leaves := by
  induction commands with
  | nil => rfl
  | cons command rest ih => rw [leavesOfAll, ih, List.flatMap_cons]

theorem leaves_of_body {command : GenericCommand Body} (none : command.subCommands = []) :
    command.leaves = [command] := by
  obtain ⟨_, _, _, _, _, subCommands⟩ := command
  obtain rfl : subCommands = [] := none
  rfl

theorem leaves_of_subCommands {command : GenericCommand Body}
    (some : command.subCommands ≠ []) :
    command.leaves = command.subCommands.flatMap leaves := by
  obtain ⟨_, _, _, _, _, subCommands⟩ := command
  cases subCommands with
  | nil => exact absurd rfl some
  | cons first rest =>
      simp only [leaves, leavesOfAll_eq, GenericCommand.subCommands, List.flatMap_cons]

theorem leaves_ne_nil (command : GenericCommand Body) : command.leaves ≠ [] := by
  induction command using subCommandsInduction with
  | step command ih =>
      by_cases none : command.subCommands = []
      · simp [leaves_of_body none]
      · obtain ⟨first, rest, split⟩ := List.exists_cons_of_ne_nil none
        rw [leaves_of_subCommands none, split, List.flatMap_cons]
        have member : first ∈ command.subCommands := by simp [split]
        simp [ih first member]

end GenericCommand

namespace Program

variable {World Body : Type} (program : Program World Body)

theorem methodsOfAll_eq (commands : List (GenericCommand Body)) :
    program.methodsOfAll commands = commands.map program.methods := by
  induction commands with
  | nil => rfl
  | cons command rest ih => rw [methodsOfAll, ih, List.map_cons]

theorem methods_eq (command : GenericCommand Body) :
    program.methods command =
      program.dispatch command (command.subCommands.map program.methods) := by
  obtain ⟨_, _, _, _, _, subCommands⟩ := command
  rw [methods, methodsOfAll_eq]
  rfl

@[simp] theorem methods_command (command : GenericCommand Body) :
    (program.methods command).command = command := by
  rw [methods_eq]
  rfl

section Dispatch

variable {command : GenericCommand Body} {hasAcidParent : Bool}

theorem doCommandUnder_acid (acid : (hasAcidParent || command.subCommandsAreAcid) = true)
    (some : command.subCommands ≠ []) :
    program.doCommandUnder command hasAcidParent =
      program.doAcidSubItems (command.subCommands.map program.methods) := by
  have filled : (command.subCommands.map program.methods).isEmpty = false := by simp [some]
  rw [doCommandUnder, methods_eq]
  simp only [dispatch, acid, filled, ↓reduceIte, Bool.false_eq_true]

theorem doCommandUnder_acidBody (acid : (hasAcidParent || command.subCommandsAreAcid) = true)
    (none : command.subCommands = []) :
    program.doCommandUnder command hasAcidParent = program.doDo command false := by
  rw [doCommandUnder, methods_eq]
  simp only [dispatch, acid, none, List.map_nil, List.isEmpty_nil, ↓reduceIte]

theorem undoCommandUnder_acid (acid : (hasAcidParent || command.subCommandsAreAcid) = true)
    (some : command.subCommands ≠ []) :
    program.undoCommandUnder command hasAcidParent =
      program.undoAcidSubItems command (command.subCommands.map program.methods) := by
  have filled : (command.subCommands.map program.methods).isEmpty = false := by simp [some]
  rw [undoCommandUnder, methods_eq]
  simp only [dispatch, acid, filled, ↓reduceIte, Bool.false_eq_true]

theorem undoCommandUnder_acidBody (acid : (hasAcidParent || command.subCommandsAreAcid) = true)
    (none : command.subCommands = []) (world : World) :
    program.undoCommandUnder command hasAcidParent world = (.ok false, world) := by
  rw [undoCommandUnder, methods_eq]
  simp only [dispatch, acid, none, List.map_nil, List.isEmpty_nil, ↓reduceIte]

theorem doCommandUnder_plain (plain : command.subCommandsAreAcid = false)
    (some : command.subCommands ≠ []) :
    program.doCommandUnder command false =
      thenTrue (doSubItems (command.subCommands.map program.methods)) := by
  have filled : (command.subCommands.map program.methods).isEmpty = false := by simp [some]
  rw [doCommandUnder, methods_eq]
  simp only [dispatch, plain, filled, Bool.or_self, ↓reduceIte, Bool.false_eq_true]

theorem doCommandUnder_plainBody (plain : command.subCommandsAreAcid = false)
    (none : command.subCommands = []) :
    program.doCommandUnder command false = thenTrue (program.doDo command false) := by
  rw [doCommandUnder, methods_eq]
  simp only [dispatch, plain, none, List.map_nil, List.isEmpty_nil, Bool.or_self, ↓reduceIte,
    Bool.false_eq_true]

theorem undoCommandUnder_plain (plain : command.subCommandsAreAcid = false)
    (some : command.subCommands ≠ []) :
    program.undoCommandUnder command false =
      thenTrue (undoSubItems (command.subCommands.map program.methods)) := by
  have filled : (command.subCommands.map program.methods).isEmpty = false := by simp [some]
  rw [undoCommandUnder, methods_eq]
  simp only [dispatch, plain, filled, Bool.or_self, ↓reduceIte, Bool.false_eq_true]

theorem undoCommandUnder_plainBody (plain : command.subCommandsAreAcid = false)
    (none : command.subCommands = []) :
    program.undoCommandUnder command false = thenTrue (program.undoPlain command) := by
  rw [undoCommandUnder, methods_eq]
  simp only [dispatch, plain, none, List.map_nil, List.isEmpty_nil, Bool.or_self, ↓reduceIte,
    Bool.false_eq_true]

end Dispatch

/-! What comes of executing a single command. -/

/-- Its effect, or none because of an exception that is only logged, or none because a known
error discards the command. -/
inductive Execution where
  | applied
  | ignored
  | discarded
  deriving DecidableEq, Repr

def executionOr (again : World → Execution × World) (command : GenericCommand Body)
    (world : World) : Execution × World :=
  match program.doBody command world with
  | (none, next) => (.applied, next)
  | (some .exception, next) => (.ignored, next)
  | (some (.knownError errorId), next) =>
      match program.handleError command errorId next with
      | (.retryCommand, handled) => again handled
      | (_, handled) => (.discarded, handled)

def execution (command : GenericCommand Body) : World → Execution × World :=
  program.executionOr (program.executionOr (fun world => (.discarded, world)) command) command

theorem doDoOr_eq {again : Action World Bool} {retried : World → Execution × World}
    (agrees : ∀ world, again world = (.ok ((retried world).1 != .discarded), (retried world).2))
    (command : GenericCommand Body) (world : World) :
    program.doDoOr again command world =
      (.ok ((program.executionOr retried command world).1 != .discarded),
        (program.executionOr retried command world).2) := by
  unfold doDoOr executionOr
  rcases program.doBody command world with ⟨_ | _ | _, next⟩
  · rfl
  · rename_i errorId
    rcases handled : program.handleError command errorId next with ⟨_ | _ | _ | _, last⟩
    · simp [handled]
    · simpa [handled] using agrees last
    · simp [handled]
    · simp [handled]
  · rfl

theorem doDo_eq (command : GenericCommand Body) (world : World) :
    program.doDo command false world =
      (.ok ((program.execution command world).1 != .discarded),
        (program.execution command world).2) := by
  apply program.doDoOr_eq
  intro retrying
  apply program.doDoOr_eq
  intro givingUp
  rfl

/-! What an ACID loop catches. -/

def Uncaught {Result : Type} (outcome : Except Thrown Result) : Prop :=
  ∀ error, outcome ≠ .error (.error error)

theorem guarded_of_uncaught {command blamed : GenericCommand Body}
    {attempt again : Action World Bool} {world : World}
    (uncaught : Uncaught (attempt world).1) :
    program.guarded command blamed attempt again world = attempt world := by
  unfold guarded
  split
  · rename_i outcome
    exact absurd (congrArg Prod.fst outcome) (uncaught _)
  · rename_i outcome
    exact absurd (congrArg Prod.fst outcome) (uncaught _)
  · rfl

theorem doDo_cases (command : GenericCommand Body) (world : World) :
    ∃ next, program.doDo command false world = (.ok true, next) ∨
      program.doDo command false world = (.ok false, next) := by
  refine ⟨(program.execution command world).2, ?_⟩
  rw [doDo_eq]
  cases (program.execution command world).1 with
  | applied => exact Or.inl rfl
  | ignored => exact Or.inl rfl
  | discarded => exact Or.inr rfl

/-! The undo of an ACID tree. -/

theorem rollBack_inert {forward backward : Methods World Body → Action World Bool}
    {passed : List (Methods World Body)}
    (inert : ∀ previous ∈ passed, ∀ world, backward previous world = (.ok false, world))
    (world : World) :
    program.rollBack forward backward passed world =
      (if passed.isEmpty then .ok false else .error .acidRollbackFailure, world) := by
  cases passed with
  | nil => rfl
  | cons previous earlier =>
      have nothing := inert previous List.mem_cons_self world
      have uncaught : Uncaught (backward previous world).1 := by simp [nothing, Uncaught]
      rw [rollBack, program.guarded_of_uncaught uncaught, nothing]
      rfl

/-- A command without sub-commands is not undone under an ACID parent, and the loop of a parent
stops at the first sub-command that is not undone. -/
theorem undoCommandUnder_inert (command : GenericCommand Body) :
    ∀ hasAcidParent : Bool, (hasAcidParent || command.subCommandsAreAcid) = true →
      ∀ world, program.undoCommandUnder command hasAcidParent world = (.ok false, world) := by
  induction command using GenericCommand.subCommandsInduction with
  | step command ih =>
      intro hasAcidParent acid world
      by_cases none : command.subCommands = []
      · exact program.undoCommandUnder_acidBody acid none world
      · rw [program.undoCommandUnder_acid acid none, undoAcidSubItems, ← List.map_reverse]
        obtain ⟨last, earlier, split⟩ :=
          List.exists_cons_of_ne_nil (List.reverse_ne_nil_iff.mpr none)
        have member : last ∈ command.subCommands := by
          rw [← List.mem_reverse, split]
          exact List.mem_cons_self
        have nothing : (program.methods last).undoCommand true world = (.ok false, world) :=
          ih last member true rfl world
        have uncaught : Uncaught ((program.methods last).undoCommand true world).1 := by
          simp [nothing, Uncaught]
        rw [split, List.map_cons, acidSubItems, program.guarded_of_uncaught uncaught, nothing]
        rfl

/-! The execution of an ACID tree. -/

/-- Commands executed one after the other until one is discarded. Discarded first it is only
reported; discarded later (`started`) it ends in `AcidRollbackFailure`. -/
def acidRun : Bool → List (GenericCommand Body) → Action World Bool
  | _, [], world => (.ok true, world)
  | started, command :: rest, world =>
      match program.doDo command false world with
      | (.ok true, next) => acidRun true rest next
      | (.ok false, next) => (if started then .error .acidRollbackFailure else .ok false, next)
      | outcome => outcome

theorem acidRun_kept (started : Bool) {leaf : GenericCommand Body}
    (rest : List (GenericCommand Body)) {world : World}
    (kept : (program.execution leaf world).1 ≠ .discarded) :
    program.acidRun started (leaf :: rest) world =
      program.acidRun true rest (program.execution leaf world).2 := by
  have done : ((program.execution leaf world).1 != .discarded) = true := by simpa using kept
  simp only [acidRun, doDo_eq, done]

theorem acidRun_discarded (started : Bool) {leaf : GenericCommand Body}
    (rest : List (GenericCommand Body)) {world : World}
    (discarded : (program.execution leaf world).1 = .discarded) :
    program.acidRun started (leaf :: rest) world =
      (if started then .error .acidRollbackFailure else .ok false,
        (program.execution leaf world).2) := by
  simp [acidRun, doDo_eq, discarded]

theorem acidRun_uncaught (started : Bool) (commands : List (GenericCommand Body))
    (world : World) : Uncaught (program.acidRun started commands world).1 := by
  induction commands generalizing started world with
  | nil => simp [acidRun, Uncaught]
  | cons command rest ih =>
      obtain ⟨next, done | discarded⟩ := program.doDo_cases command world
      · simpa [acidRun, done] using ih true next
      · cases started <;> simp [acidRun, discarded, Uncaught]

theorem acidRun_true_ne_false (commands : List (GenericCommand Body)) (world : World) :
    (program.acidRun true commands world).1 ≠ .ok false := by
  induction commands generalizing world with
  | nil => simp [acidRun]
  | cons command rest ih =>
      obtain ⟨next, done | discarded⟩ := program.doDo_cases command world
      · simpa [acidRun, done] using ih next
      · simp [acidRun, discarded]

def escalate : Except Thrown Bool × World → Except Thrown Bool × World
  | (.ok false, next) => (.error .acidRollbackFailure, next)
  | outcome => outcome

theorem escalate_eq_self {outcome : Except Thrown Bool × World} (done : outcome.1 ≠ .ok false) :
    escalate outcome = outcome := by
  unfold escalate
  split
  · exact absurd rfl done
  · rfl

theorem acidRun_started (commands : List (GenericCommand Body)) (world : World) :
    program.acidRun true commands world = escalate (program.acidRun false commands world) := by
  cases commands with
  | nil => rfl
  | cons command rest =>
      obtain ⟨next, done | discarded⟩ := program.doDo_cases command world
      · simp only [acidRun, done]
        exact (escalate_eq_self (program.acidRun_true_ne_false rest next)).symm
      · simp [acidRun, discarded, escalate]

theorem acidRun_append (started : Bool) (first second : List (GenericCommand Body))
    (world : World) :
    program.acidRun started (first ++ second) world =
      match program.acidRun started first world with
      | (.ok true, next) => program.acidRun (started || !first.isEmpty) second next
      | outcome => outcome := by
  induction first generalizing started world with
  | nil => simp [acidRun]
  | cons command rest ih =>
      obtain ⟨next, done | discarded⟩ := program.doDo_cases command world
      · simp [acidRun, done, ih]
      · cases started <;> simp [acidRun, discarded]

theorem acidSubItems_eq {forward backward : Methods World Body → Action World Bool}
    {blamed : Methods World Body → GenericCommand Body} {rest passed : List (Methods World Body)}
    (executes : ∀ subCommand ∈ rest, ∀ world,
      forward subCommand world = program.acidRun false subCommand.command.leaves world)
    (inert : ∀ previous ∈ passed ++ rest, ∀ world, backward previous world = (.ok false, world))
    (world : World) :
    program.acidSubItems blamed forward backward passed rest world =
      program.acidRun (!passed.isEmpty)
        (rest.flatMap fun subCommand => subCommand.command.leaves) world := by
  induction rest generalizing passed world with
  | nil => rfl
  | cons subCommand rest ih =>
      have here := executes subCommand List.mem_cons_self world
      have uncaught : Uncaught (forward subCommand world).1 := by
        rw [here]
        exact program.acidRun_uncaught _ _ _
      rw [acidSubItems, program.guarded_of_uncaught uncaught, here, List.flatMap_cons,
        acidRun_append]
      have filled : subCommand.command.leaves.isEmpty = false := by
        simp [GenericCommand.leaves_ne_nil]
      have rolled (next : World) : program.rollBack forward backward passed next =
          (if passed.isEmpty then .ok false else .error .acidRollbackFailure, next) :=
        program.rollBack_inert (fun previous member => inert previous (by simp [member])) next
      have later (next : World) :=
        @ih (subCommand :: passed)
          (fun other member => executes other (List.mem_cons_of_mem _ member))
          (fun other member => inert other (by simpa [or_left_comm] using member)) next
      cases passed with
      | nil =>
          simp only [List.isEmpty_nil, Bool.not_true]
          obtain ⟨outcome, next⟩ := program.acidRun false subCommand.command.leaves world
          rcases outcome with thrown | _ | _
          · rfl
          · simp [rolled]
          · simpa [filled] using later next
      | cons previous earlier =>
          simp only [List.isEmpty_cons, Bool.not_false,
            acidRun_started program subCommand.command.leaves]
          obtain ⟨outcome, next⟩ := program.acidRun false subCommand.command.leaves world
          rcases outcome with thrown | _ | _
          · rfl
          · simp [rolled, escalate]
          · simpa [filled, escalate] using later next

theorem doCommandUnder_eq_acidRun (command : GenericCommand Body) :
    ∀ hasAcidParent : Bool, (hasAcidParent || command.subCommandsAreAcid) = true →
      ∀ world, program.doCommandUnder command hasAcidParent world =
        program.acidRun false command.leaves world := by
  induction command using GenericCommand.subCommandsInduction with
  | step command ih =>
      intro hasAcidParent acid world
      by_cases none : command.subCommands = []
      · rw [program.doCommandUnder_acidBody acid none, GenericCommand.leaves_of_body none]
        obtain ⟨next, done | discarded⟩ := program.doDo_cases command world
        · simp [acidRun, done]
        · simp [acidRun, discarded]
      · rw [program.doCommandUnder_acid acid none, GenericCommand.leaves_of_subCommands none,
          doAcidSubItems]
        have executes : ∀ subCommand ∈ command.subCommands.map program.methods, ∀ world,
            subCommand.doCommand true world =
              program.acidRun false subCommand.command.leaves world := by
          intro subCommand member
          obtain ⟨original, within, rfl⟩ := List.mem_map.mp member
          rw [methods_command]
          exact ih original within true rfl
        have inert : ∀ previous ∈ [] ++ command.subCommands.map program.methods, ∀ world,
            previous.undoCommand true world = (.ok false, world) := by
          intro previous member
          obtain ⟨original, -, rfl⟩ := List.mem_map.mp member
          exact program.undoCommandUnder_inert original true rfl
        rw [program.acidSubItems_eq executes inert, List.flatMap_map]
        simp

end Program

end LeanMiniViews
