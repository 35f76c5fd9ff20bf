import LeanMiniViews.CommandTree
import LeanMiniViews.HistoryCore
import LeanMiniViews.Runs

/-!
Exceptions that reach the loop of the worker, which has no handler for them. A composite command
is a sequence of units, single commands and ACID trees, each performed outside any `try`.
-/

namespace LeanMiniViews

namespace GenericCommand

variable {Body : Type}

mutual

/-- The single commands and the ACID trees that a composite performs one after the other. -/
def units : GenericCommand Body → List (GenericCommand Body)
  | .mk commandClassId undoRedoTypeId isSynchronous subCommandsAreAcid body [] =>
      [.mk commandClassId undoRedoTypeId isSynchronous subCommandsAreAcid body []]
  | .mk commandClassId undoRedoTypeId isSynchronous true body (first :: rest) =>
      [.mk commandClassId undoRedoTypeId isSynchronous true body (first :: rest)]
  | .mk _ _ _ false _ (first :: rest) => units first ++ unitsOfAll rest

def unitsOfAll : List (GenericCommand Body) → List (GenericCommand Body)
  | [] => []
  | command :: rest => units command ++ unitsOfAll rest

end

theorem unitsOfAll_eq (commands : List (GenericCommand Body)) :
    unitsOfAll commands = commands.flatMap units := by
  induction commands with
  | nil => rfl
  | cons command rest ih => rw [unitsOfAll, ih, List.flatMap_cons]

def IsUnit (command : GenericCommand Body) : Prop :=
  command.subCommandsAreAcid = true ∨ command.subCommands = []

theorem units_of_isUnit {command : GenericCommand Body} (alone : command.IsUnit) :
    command.units = [command] := by
  obtain ⟨_, _, _, acid, _, subCommands⟩ := command
  cases subCommands with
  | nil => rfl
  | cons first rest =>
      obtain rfl : acid = true := by simpa [IsUnit, subCommandsAreAcid, subCommands] using alone
      rfl

theorem units_of_composite {command : GenericCommand Body} (composite : ¬ command.IsUnit) :
    command.units = command.subCommands.flatMap units := by
  obtain ⟨_, _, _, acid, _, subCommands⟩ := command
  cases subCommands with
  | nil => exact absurd (Or.inr rfl) composite
  | cons first rest =>
      obtain rfl : acid = false := by
        simpa [IsUnit, subCommandsAreAcid, GenericCommand.subCommands] using composite
      simp only [units, unitsOfAll_eq, GenericCommand.subCommands, List.flatMap_cons]

theorem isUnit_of_mem_units (command : GenericCommand Body) :
    ∀ unit ∈ command.units, unit.IsUnit := by
  induction command using subCommandsInduction with
  | step command ih =>
      intro unit member
      by_cases alone : command.IsUnit
      · rw [units_of_isUnit alone, List.mem_singleton] at member
        exact member ▸ alone
      · rw [units_of_composite alone, List.mem_flatMap] at member
        obtain ⟨subCommand, within, member⟩ := member
        exact ih subCommand within unit member

end GenericCommand

namespace Program

variable {World Body : Type} (program : Program World Body)

def thrownBy {Result : Type} (action : Action World Result) (world : World) :
    Option Thrown × World :=
  match action world with
  | (.ok _, next) => (none, next)
  | (.error thrown, next) => (some thrown, next)

theorem thrownBy_thenTrue {Result : Type} (action : Action World Result) :
    thrownBy (thenTrue action) = thrownBy action := by
  funext world
  unfold thrownBy thenTrue
  rcases action world with ⟨thrown | done, next⟩ <;> rfl

def sequence (perform : GenericCommand Body → World → Option Thrown × World) :
    List (GenericCommand Body) → World → Option Thrown × World
  | [], world => (none, world)
  | command :: rest, world =>
      match perform command world with
      | (none, next) => sequence perform rest next
      | (some thrown, next) => (some thrown, next)

theorem sequence_append (perform : GenericCommand Body → World → Option Thrown × World)
    (first second : List (GenericCommand Body)) (world : World) :
    sequence perform (first ++ second) world =
      match sequence perform first world with
      | (none, next) => sequence perform second next
      | (some thrown, next) => (some thrown, next) := by
  induction first generalizing world with
  | nil => rfl
  | cons command rest ih =>
      simp only [List.cons_append, sequence]
      rcases perform command world with ⟨_ | thrown, next⟩
      · exact ih next
      · rfl

theorem sequence_singleton (perform : GenericCommand Body → World → Option Thrown × World)
    (command : GenericCommand Body) (world : World) :
    sequence perform [command] world = perform command world := by
  simp only [sequence]
  rcases perform command world with ⟨_ | thrown, next⟩ <;> rfl

theorem sequence_flatMap {perform : GenericCommand Body → World → Option Thrown × World}
    {parts : GenericCommand Body → List (GenericCommand Body)}
    {commands : List (GenericCommand Body)}
    (inParts : ∀ command ∈ commands, ∀ world,
      perform command world = sequence perform (parts command) world)
    (world : World) :
    sequence perform commands world = sequence perform (commands.flatMap parts) world := by
  induction commands generalizing world with
  | nil => rfl
  | cons command rest ih =>
      rw [List.flatMap_cons, sequence_append, sequence,
        inParts command List.mem_cons_self]
      have later := ih fun other member => inParts other (List.mem_cons_of_mem _ member)
      rcases sequence perform (parts command) world with ⟨_ | thrown, next⟩
      · exact later next
      · rfl

theorem sequence_units (perform : GenericCommand Body → World → Option Thrown × World)
    (bySubCommands : ∀ command : GenericCommand Body, ¬ command.IsUnit → ∀ world,
      perform command world = sequence perform command.subCommands world)
    (command : GenericCommand Body) (world : World) :
    perform command world = sequence perform command.units world := by
  induction command using GenericCommand.subCommandsInduction generalizing world with
  | step command ih =>
      by_cases alone : command.IsUnit
      · rw [GenericCommand.units_of_isUnit alone, sequence_singleton]
      · rw [bySubCommands command alone, GenericCommand.units_of_composite alone]
        exact sequence_flatMap ih world

theorem thrownBy_eachSubItem (run : Methods World Body → Action World Bool)
    (commands : List (GenericCommand Body)) (world : World) :
    thrownBy (eachSubItem run (commands.map program.methods)) world =
      sequence (fun command => thrownBy (run (program.methods command))) commands world := by
  induction commands generalizing world with
  | nil => rfl
  | cons command rest ih =>
      simp only [List.map_cons, sequence, thrownBy, eachSubItem]
      rcases run (program.methods command) world with ⟨thrown | done, next⟩
      · rfl
      · exact ih next

theorem doCommandUnder_units (command : GenericCommand Body) (world : World) :
    thrownBy (program.doCommandUnder command false) world =
      sequence (fun unit => thrownBy (program.doCommandUnder unit false)) command.units world := by
  apply sequence_units fun command => thrownBy (program.doCommandUnder command false)
  intro command composite world
  obtain ⟨plain, some⟩ := not_or.mp composite
  rw [program.doCommandUnder_plain (Bool.eq_false_iff.mpr plain) some, thrownBy_thenTrue]
  exact program.thrownBy_eachSubItem (fun unit => unit.doCommand false) _ world

theorem undoCommandUnder_units (command : GenericCommand Body) (world : World) :
    thrownBy (program.undoCommandUnder command false) world =
      sequence (fun unit => thrownBy (program.undoCommandUnder unit false)) command.units
        world := by
  apply sequence_units fun command => thrownBy (program.undoCommandUnder command false)
  intro command composite world
  obtain ⟨plain, some⟩ := not_or.mp composite
  rw [program.undoCommandUnder_plain (Bool.eq_false_iff.mpr plain) some, thrownBy_thenTrue]
  exact program.thrownBy_eachSubItem (fun unit => unit.undoCommand false) _ world

/-! What each unit must meet. -/

def AllFit (fits : GenericCommand Body → World → Prop)
    (after : GenericCommand Body → World → World) : List (GenericCommand Body) → World → Prop
  | [], _ => True
  | command :: rest, world => fits command world ∧ AllFit fits after rest (after command world)

theorem sequence_none_iff {perform : GenericCommand Body → World → Option Thrown × World}
    {fits : GenericCommand Body → World → Prop} {after : GenericCommand Body → World → World}
    {commands : List (GenericCommand Body)}
    (passes : ∀ command ∈ commands, ∀ world, fits command world →
      perform command world = (none, after command world))
    (throws : ∀ command ∈ commands, ∀ world, ¬ fits command world →
      (perform command world).1 ≠ none)
    (world : World) :
    (sequence perform commands world).1 = none ↔ AllFit fits after commands world := by
  induction commands generalizing world with
  | nil => simp [sequence, AllFit]
  | cons command rest ih =>
      have later := ih (fun other member => passes other (List.mem_cons_of_mem _ member))
        (fun other member => throws other (List.mem_cons_of_mem _ member))
      by_cases fit : fits command world
      · simp only [sequence, AllFit, passes command List.mem_cons_self world fit, fit, true_and]
        exact later _
      · have thrown := throws command List.mem_cons_self world fit
        simp only [AllFit, fit, false_and, iff_false, sequence]
        rcases outcome : perform command world with ⟨_ | exception, next⟩
        · exact absurd (congrArg Prod.fst outcome) thrown
        · simp

def NoneDiscarded : List (GenericCommand Body) → World → Prop
  | [], _ => True
  | leaf :: rest, world =>
      (program.execution leaf world).1 ≠ .discarded ∧
        NoneDiscarded rest (program.execution leaf world).2

def OnlyFirstDiscarded : List (GenericCommand Body) → World → Prop
  | [], _ => True
  | leaf :: rest, world =>
      (program.execution leaf world).1 ≠ .discarded →
        program.NoneDiscarded rest (program.execution leaf world).2

def afterLeaves : List (GenericCommand Body) → World → World
  | [], world => world
  | leaf :: rest, world =>
      if (program.execution leaf world).1 = .discarded then (program.execution leaf world).2
      else afterLeaves rest (program.execution leaf world).2

def DoContained (command : GenericCommand Body) (world : World) : Prop :=
  AllFit (fun unit => program.OnlyFirstDiscarded unit.leaves)
    (fun unit => program.afterLeaves unit.leaves) command.units world

/-- The units that are no ACID trees are undone in order, and none of them throws. -/
def UndoContained (command : GenericCommand Body) (world : World) : Prop :=
  AllFit (fun unit current =>
      unit.subCommandsAreAcid = true ∨ (program.undoBody unit current).1 = none)
    (fun unit current =>
      if unit.subCommandsAreAcid then current else (program.undoBody unit current).2)
    command.units world

theorem acidRun_true_eq {leaves : List (GenericCommand Body)} {world : World}
    (kept : program.NoneDiscarded leaves world) :
    program.acidRun true leaves world = (.ok true, program.afterLeaves leaves world) := by
  induction leaves generalizing world with
  | nil => rfl
  | cons leaf rest ih =>
      obtain ⟨here, later⟩ := kept
      rw [program.acidRun_kept true rest here, afterLeaves, if_neg here]
      exact ih later

theorem acidRun_true_throws {leaves : List (GenericCommand Body)} {world : World}
    (lost : ¬ program.NoneDiscarded leaves world) :
    ∃ next, program.acidRun true leaves world = (.error .acidRollbackFailure, next) := by
  induction leaves generalizing world with
  | nil => exact absurd trivial lost
  | cons leaf rest ih =>
      by_cases here : (program.execution leaf world).1 = .discarded
      · exact ⟨_, program.acidRun_discarded true rest here⟩
      · have later : ¬ program.NoneDiscarded rest (program.execution leaf world).2 :=
          fun kept => lost ⟨here, kept⟩
        rw [program.acidRun_kept true rest here]
        exact ih later

theorem acidRun_false_eq {leaves : List (GenericCommand Body)} {world : World}
    (kept : program.OnlyFirstDiscarded leaves world) :
    ∃ done, program.acidRun false leaves world = (.ok done, program.afterLeaves leaves world) := by
  cases leaves with
  | nil => exact ⟨true, rfl⟩
  | cons leaf rest =>
      by_cases here : (program.execution leaf world).1 = .discarded
      · rw [program.acidRun_discarded false rest here, afterLeaves, if_pos here]
        exact ⟨false, rfl⟩
      · rw [program.acidRun_kept false rest here, afterLeaves, if_neg here]
        exact ⟨true, program.acidRun_true_eq (kept here)⟩

theorem acidRun_false_throws {leaves : List (GenericCommand Body)} {world : World}
    (lost : ¬ program.OnlyFirstDiscarded leaves world) :
    ∃ next, program.acidRun false leaves world = (.error .acidRollbackFailure, next) := by
  cases leaves with
  | nil => exact absurd trivial lost
  | cons leaf rest =>
      obtain ⟨here, later⟩ := Classical.not_imp.mp lost
      rw [program.acidRun_kept false rest here]
      exact program.acidRun_true_throws later

theorem doUnit_passes {unit : GenericCommand Body} (alone : unit.IsUnit) {world : World}
    (kept : program.OnlyFirstDiscarded unit.leaves world) :
    thrownBy (program.doCommandUnder unit false) world =
      (none, program.afterLeaves unit.leaves world) := by
  by_cases acid : unit.subCommandsAreAcid = true
  · obtain ⟨done, run⟩ := program.acidRun_false_eq kept
    rw [thrownBy, program.doCommandUnder_eq_acidRun unit false (by simp [acid]), run]
  · have none : unit.subCommands = [] := alone.resolve_left acid
    rw [program.doCommandUnder_plainBody (Bool.eq_false_iff.mpr acid) none, thrownBy_thenTrue,
      thrownBy, doDo_eq, GenericCommand.leaves_of_body none]
    simp [afterLeaves]

theorem doUnit_throws {unit : GenericCommand Body} (alone : unit.IsUnit) {world : World}
    (lost : ¬ program.OnlyFirstDiscarded unit.leaves world) :
    (thrownBy (program.doCommandUnder unit false) world).1 ≠ none := by
  by_cases acid : unit.subCommandsAreAcid = true
  · obtain ⟨next, thrown⟩ := program.acidRun_false_throws lost
    rw [thrownBy, program.doCommandUnder_eq_acidRun unit false (by simp [acid]), thrown]
    simp
  · refine absurd ?_ lost
    rw [GenericCommand.leaves_of_body (alone.resolve_left acid)]
    exact fun _ => trivial

theorem undoUnit_passes {unit : GenericCommand Body} (alone : unit.IsUnit) {world : World}
    (fits : unit.subCommandsAreAcid = true ∨ (program.undoBody unit world).1 = none) :
    thrownBy (program.undoCommandUnder unit false) world =
      (none, if unit.subCommandsAreAcid then world else (program.undoBody unit world).2) := by
  by_cases acid : unit.subCommandsAreAcid = true
  · rw [thrownBy, program.undoCommandUnder_inert unit false (by simp [acid])]
    simp [acid]
  · have undone := fits.resolve_left acid
    rw [program.undoCommandUnder_plainBody (Bool.eq_false_iff.mpr acid) (alone.resolve_left acid),
      thrownBy_thenTrue]
    rcases outcome : program.undoBody unit world with ⟨_ | error, next⟩
    · simp [thrownBy, undoPlain, outcome, acid]
    · simp [outcome] at undone

theorem undoUnit_throws {unit : GenericCommand Body} (alone : unit.IsUnit) {world : World}
    (fails : ¬ (unit.subCommandsAreAcid = true ∨ (program.undoBody unit world).1 = none)) :
    (thrownBy (program.undoCommandUnder unit false) world).1 ≠ none := by
  obtain ⟨acid, thrown⟩ := not_or.mp fails
  rw [program.undoCommandUnder_plainBody (Bool.eq_false_iff.mpr acid) (alone.resolve_left acid),
    thrownBy_thenTrue]
  rcases outcome : program.undoBody unit world with ⟨_ | error, next⟩
  · exact absurd (congrArg Prod.fst outcome) thrown
  · simp [thrownBy, undoPlain, outcome]

theorem thrownBy_notifying (action : Action World Bool) (command : GenericCommand Body)
    (world : World) :
    (thrownBy (program.notifying action command) world).1 = (thrownBy action world).1 := by
  unfold thrownBy notifying
  rcases action world with ⟨thrown | _ | _, next⟩ <;> rfl

theorem doCommand_contained_iff (command : GenericCommand Body) (world : World) :
    (thrownBy (program.doCommand command) world).1 = none ↔ program.DoContained command world := by
  rw [doCommand, thrownBy_notifying, doCommandUnder_units]
  apply sequence_none_iff
  · intro unit member current kept
    exact program.doUnit_passes (GenericCommand.isUnit_of_mem_units command unit member) kept
  · intro unit member current lost
    exact program.doUnit_throws (GenericCommand.isUnit_of_mem_units command unit member) lost

theorem undoCommand_contained_iff (command : GenericCommand Body) (world : World) :
    (thrownBy (program.undoCommand command) world).1 = none ↔
      program.UndoContained command world := by
  rw [undoCommand, thrownBy_notifying, undoCommandUnder_units]
  apply sequence_none_iff
  · intro unit member current fits
    exact program.undoUnit_passes (GenericCommand.isUnit_of_mem_units command unit member) fits
  · intro unit member current fails
    exact program.undoUnit_throws (GenericCommand.isUnit_of_mem_units command unit member) fails

end Program

namespace Worker

variable {World Body : Type} (program : Program World Body)

def Contained (worker : Worker World Body) : Work Body → Prop
  | .doCommand command => program.DoContained command worker.world
  | .tryUndo undoRedoTypeId =>
      ∀ command ∈ (worker.zippers undoRedoTypeId).undo.head?,
        program.UndoContained command worker.world
  | .tryRedo undoRedoTypeId =>
      ∀ command ∈ (worker.zippers undoRedoTypeId).redo.head?,
        program.DoContained command worker.world

variable {program}

theorem doQueued_isSome_iff (worker : Worker World Body) (command : GenericCommand Body) :
    (worker.doQueued program command).isSome = true ↔
      (Program.thrownBy (program.doCommand command) worker.world).1 = none := by
  unfold doQueued Program.thrownBy
  rcases program.doCommand command worker.world with ⟨thrown | _ | _, next⟩ <;> simp

theorem tryUndo_isSome_iff (worker : Worker World Body) (undoRedoTypeId : UInt32) :
    (worker.tryUndo program undoRedoTypeId).isSome = true ↔
      ∀ command ∈ (worker.zippers undoRedoTypeId).undo.head?,
        (Program.thrownBy (program.undoCommand command) worker.world).1 = none := by
  unfold tryUndo zippers Program.thrownBy
  rcases worker.undoBuffers undoRedoTypeId with _ | _ | ⟨command, rest⟩
  · simp
  · simp
  · rcases undone : program.undoCommand command worker.world with ⟨thrown | _ | _, next⟩ <;>
      simp [undone]

theorem tryRedo_isSome_iff (worker : Worker World Body) (undoRedoTypeId : UInt32) :
    (worker.tryRedo program undoRedoTypeId).isSome = true ↔
      ∀ command ∈ (worker.zippers undoRedoTypeId).redo.head?,
        (Program.thrownBy (program.doCommand command) worker.world).1 = none := by
  unfold tryRedo zippers Program.thrownBy
  rcases worker.redoBuffers undoRedoTypeId with _ | _ | ⟨command, rest⟩
  · simp
  · simp
  · rcases done : program.doCommand command worker.world with ⟨thrown | _ | _, next⟩ <;>
      simp [done]

theorem perform_isSome_iff (worker : Worker World Body) (work : Work Body) :
    (worker.perform program work).isSome = true ↔ worker.Contained program work := by
  cases work with
  | doCommand command =>
      rw [perform, doQueued_isSome_iff, program.doCommand_contained_iff]
      rfl
  | tryUndo undoRedoTypeId =>
      rw [perform, tryUndo_isSome_iff]
      simp only [program.undoCommand_contained_iff]
      rfl
  | tryRedo undoRedoTypeId =>
      rw [perform, tryRedo_isSome_iff]
      simp only [program.doCommand_contained_iff]
      rfl

end Worker

end LeanMiniViews
