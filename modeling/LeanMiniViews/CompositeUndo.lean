import LeanMiniViews.CommandTree
import LeanMiniViews.Reversible

/-!
`UndoCommand` after `DoCommand` on a tree without ACID commands. The leaves are undone in the
order in which they were done. `Do` is no const member, so a leaf may keep the state it was done
in for its `Undo`.
-/

namespace LeanMiniViews

namespace GenericCommand

variable {Body : Type}

inductive NonAcid : GenericCommand Body → Prop
  | node {command} : command.subCommandsAreAcid = false →
      (∀ subCommand ∈ command.subCommands, NonAcid subCommand) → NonAcid command

def leafBodies (command : GenericCommand Body) : List Body :=
  command.leaves.map body

theorem leafBodies_ne_nil (command : GenericCommand Body) : command.leafBodies ≠ [] := by
  simpa [leafBodies] using command.leaves_ne_nil

end GenericCommand

namespace Program

variable {World Body State : Type}

/-! The order of the leaves. -/

section Visits

variable (program : Program World Body) (run : Methods World Body → Action World Bool)
  (effect : GenericCommand Body → World → World)

def visit (commands : List (GenericCommand Body)) (world : World) : World :=
  commands.foldl (fun current leaf => effect leaf current) world

theorem visit_append (first second : List (GenericCommand Body)) (world : World) :
    visit effect (first ++ second) world = visit effect second (visit effect first world) :=
  List.foldl_append

theorem eachSubItem_visits {commands : List (GenericCommand Body)}
    (visits : ∀ command ∈ commands, ∀ world,
      run (program.methods command) world = (.ok true, visit effect command.leaves world))
    (world : World) :
    eachSubItem run (commands.map program.methods) world =
      (.ok (), visit effect (commands.flatMap GenericCommand.leaves) world) := by
  induction commands generalizing world with
  | nil => rfl
  | cons command rest ih =>
      have later := ih fun other member => visits other (List.mem_cons_of_mem _ member)
      rw [List.map_cons, eachSubItem, visits command List.mem_cons_self, List.flatMap_cons,
        visit_append]
      exact later _

theorem visits_leaves
    (single : ∀ command : GenericCommand Body, command.subCommandsAreAcid = false →
      command.subCommands = [] →
        ∀ world, run (program.methods command) world = (.ok true, effect command world))
    (composite : ∀ command : GenericCommand Body, command.subCommandsAreAcid = false →
      command.subCommands ≠ [] → run (program.methods command) =
        thenTrue (eachSubItem run (command.subCommands.map program.methods)))
    {command : GenericCommand Body} (nonAcid : command.NonAcid) (world : World) :
    run (program.methods command) world = (.ok true, visit effect command.leaves world) := by
  induction nonAcid generalizing world with
  | @node command plain _ ih =>
      by_cases none : command.subCommands = []
      · rw [single command plain none, GenericCommand.leaves_of_body none]
        rfl
      · rw [composite command plain none, thenTrue, program.eachSubItem_visits run effect ih,
          GenericCommand.leaves_of_subCommands none]

end Visits

/-- The leaves of a tree never fail. A leaf is told from the others by its body. -/
def ofLeaves [DecidableEq Body] (leaves : Reversible Body State) :
    Program (State × (Body → State)) Body where
  doBody leaf world :=
    (none, (leaves.act leaf.body world.1, Function.update world.2 leaf.body world.1))
  undoBody leaf world := (none, (leaves.undo leaf.body (world.2 leaf.body) world.1, world.2))
  errorHandlers _ := none
  commandListeners _ := []

def Restores [DecidableEq Body] (leaves : Reversible Body State) (command : GenericCommand Body)
    (state : State) : Prop :=
  ∀ kept,
    let done := (ofLeaves leaves).doCommand command (state, kept)
    done.1 = .ok true ∧
      ∃ keptLast, (ofLeaves leaves).undoCommand command done.2 = (.ok true, (state, keptLast))

variable [DecidableEq Body] (leaves : Reversible Body State)

theorem ofLeaves_notifying (action : Action (State × (Body → State)) Bool)
    (command : GenericCommand Body) :
    (ofLeaves leaves).notifying action command = action := by
  funext world
  unfold notifying
  split
  · rename_i finished
    rw [finished]
    rfl
  · rfl

theorem visit_doBody (commands : List (GenericCommand Body)) (state : State)
    (kept : Body → State) :
    visit (fun leaf world => ((ofLeaves leaves).doBody leaf world).2) commands (state, kept) =
      (Reversible.actAll leaves.act (commands.map GenericCommand.body) state,
        Reversible.remember leaves.act (commands.map GenericCommand.body) state kept) := by
  induction commands generalizing state kept with
  | nil => rfl
  | cons command rest ih => exact ih _ _

theorem visit_undoBody (commands : List (GenericCommand Body)) (state : State)
    (kept : Body → State) :
    visit (fun leaf world => ((ofLeaves leaves).undoBody leaf world).2) commands (state, kept) =
      (leaves.undoAll kept (commands.map GenericCommand.body) state, kept) := by
  induction commands generalizing state with
  | nil => rfl
  | cons command rest ih => exact ih _

theorem doCommand_ofLeaves {command : GenericCommand Body} (nonAcid : command.NonAcid)
    (state : State) (kept : Body → State) :
    (ofLeaves leaves).doCommand command (state, kept) =
      (.ok true, (Reversible.actAll leaves.act command.leafBodies state,
        Reversible.remember leaves.act command.leafBodies state kept)) := by
  rw [doCommand, ofLeaves_notifying, GenericCommand.leafBodies, ← visit_doBody]
  refine (ofLeaves leaves).visits_leaves (fun command => command.doCommand false) _ ?_ ?_
    nonAcid _
  · intro leaf plain none world
    exact (congrFun ((ofLeaves leaves).doCommandUnder_plainBody plain none) world).trans
      (by rw [thenTrue, doDo_eq]; rfl)
  · intro parent plain some
    exact (ofLeaves leaves).doCommandUnder_plain plain some

theorem undoCommand_ofLeaves {command : GenericCommand Body} (nonAcid : command.NonAcid)
    (state : State) (kept : Body → State) :
    (ofLeaves leaves).undoCommand command (state, kept) =
      (.ok true, (leaves.undoAll kept command.leafBodies state, kept)) := by
  rw [undoCommand, ofLeaves_notifying, GenericCommand.leafBodies, ← visit_undoBody]
  refine (ofLeaves leaves).visits_leaves (fun command => command.undoCommand false) _ ?_ ?_
    nonAcid _
  · intro leaf plain none world
    exact congrFun ((ofLeaves leaves).undoCommandUnder_plainBody plain none) world
  · intro parent plain some
    exact (ofLeaves leaves).undoCommandUnder_plain plain some

theorem restores_iff_restored {command : GenericCommand Body} (nonAcid : command.NonAcid)
    (state : State) :
    Restores leaves command state ↔ leaves.Restored command.leafBodies state := by
  unfold Restores Reversible.Restored
  refine forall_congr' fun kept => ?_
  rw [doCommand_ofLeaves leaves nonAcid]
  dsimp only
  rw [undoCommand_ofLeaves leaves nonAcid]
  simp

/-- Which trees are restored: whatever the leaves do, those of one leaf; with the given `Do`s and
whatever the `Undo`s do elsewhere, those whose leaves lead back and forth between two states and
start from the other one when they are undone; with leaves that put back the state they keep, or
that are inverted by their `Do`, those that are told by the `Do`s alone. -/
theorem undo_restores_iff {command : GenericCommand Body} (nonAcid : command.NonAcid) :
    ((∀ (State : Type) (leaves : Reversible Body State) (state : State),
        Restores leaves command state) ↔ command.leafBodies.length = 1) ∧
      (∀ (State : Type) (act : Body → State → State) (state : State),
        command.leafBodies.Nodup →
          ((∀ leaves : Reversible Body State, leaves.act = act →
              Restores leaves command state) ↔
            ∃ other, Reversible.Swings act command.leafBodies state other ∧
              (Even command.leafBodies.length → other = state))) ∧
      (∀ (State : Type) (leaves : Reversible Body State) (state : State), leaves.PutsBack →
        (Restores leaves command state ↔
          Reversible.actAll leaves.act command.leafBodies.dropLast state = state)) ∧
      (∀ (State : Type) (leaves : Reversible Body State) (state : State), leaves.Inverts →
        (Restores leaves command state ↔
          Reversible.actAll leaves.act command.leafBodies state =
            Reversible.actAll leaves.act command.leafBodies.reverse state)) := by
  have restored {State : Type} (leaves : Reversible Body State) (state : State) :=
    restores_iff_restored leaves nonAcid state
  refine ⟨?_, ?_, ?_, ?_⟩
  · simp only [restored]
    exact Reversible.always_restored_iff command.leafBodies_ne_nil
  · intro State act state own
    simp only [restored]
    exact Reversible.all_restored_iff own state
  · intro State leaves state putsBack
    rw [restored]
    exact leaves.restored_iff_of_putsBack putsBack _ _
  · intro State leaves state inverts
    rw [restored]
    exact leaves.restored_iff_of_inverts inverts _ _

/-! Leaves that do not commute. -/

def signed : Reversible Bool Int where
  act negates value := if negates then -value else value + 1
  undo negates _ value := if negates then -value else value - 1
  undo_act negates value := by
    cases negates with
    | false => simp
    | true => simp

def composite (first second : Bool) : GenericCommand Bool :=
  .ofSubCommands false [.ofBody first false 4 0, .ofBody second false 4 0] false false 4 0

theorem composite_nonAcid (first second : Bool) : (composite first second).NonAcid := by
  have leaf (negates : Bool) : (GenericCommand.ofBody negates false 4 0).NonAcid :=
    .node rfl fun _ member => by cases member
  refine .node rfl ?_
  intro subCommand member
  have either : subCommand = .ofBody first false 4 0 ∨ subCommand = .ofBody second false 4 0 := by
    simpa [composite, GenericCommand.ofSubCommands, GenericCommand.subCommands] using member
  rcases either with rfl | rfl
  · exact leaf first
  · exact leaf second

theorem undo_restores_iff_twoLeaves :
    ((∀ (State : Type) (leaves : Reversible Bool State) (state : State),
        Restores leaves (composite false true) state) ↔
          (composite false true).leafBodies.length = 1) ∧
      (∀ (State : Type) (act : Bool → State → State) (state : State),
        (composite false true).leafBodies.Nodup →
          ((∀ leaves : Reversible Bool State, leaves.act = act →
              Restores leaves (composite false true) state) ↔
            ∃ other, Reversible.Swings act (composite false true).leafBodies state other ∧
              (Even (composite false true).leafBodies.length → other = state))) ∧
      (∀ (State : Type) (leaves : Reversible Bool State) (state : State), leaves.PutsBack →
        (Restores leaves (composite false true) state ↔
          Reversible.actAll leaves.act (composite false true).leafBodies.dropLast state = state)) ∧
      (∀ (State : Type) (leaves : Reversible Bool State) (state : State), leaves.Inverts →
        (Restores leaves (composite false true) state ↔
          Reversible.actAll leaves.act (composite false true).leafBodies state =
            Reversible.actAll leaves.act (composite false true).leafBodies.reverse state)) :=
  undo_restores_iff (composite_nonAcid false true)

/-- One added to zero, then the sign changed: undone in the same order this ends at two. -/
theorem undo_misses_signed :
    ¬ ∀ (Body State : Type) (_ : DecidableEq Body) (leaves : Reversible Body State)
      (command : GenericCommand Body) (state : State), command.NonAcid →
        command.leafBodies.Nodup → Restores leaves command state := by
  intro claim
  have restored := claim Bool Int inferInstance signed (composite false true) 0
    (composite_nonAcid false true) (by decide)
  rw [restores_iff_restored signed (composite_nonAcid false true)] at restored
  exact absurd (restored fun _ => 0) (by decide)

end Program

end LeanMiniViews
