import LeanMiniViews.CommandEffects

/-!
All or nothing, for ACID commands. A discarded leaf is followed by a rollback that cannot undo
anything, and a leaf that threw an exception which is no known error counts as done.
-/

namespace LeanMiniViews

def Faults.AllApplied {Body Choices : Type} (faults : Faults Body Choices) :
    List (GenericCommand Body) → Choices → Prop
  | [], _ => True
  | command :: rest, choices =>
      (faults.execution command choices).1 = .applied ∧
        AllApplied faults rest (faults.execution command choices).2

def Faults.FirstDiscarded {Body Choices : Type} (faults : Faults Body Choices) :
    List (GenericCommand Body) → Choices → Prop
  | [], _ => False
  | command :: _, choices => (faults.execution command choices).1 = .discarded

namespace Effects

variable {Body State Choices : Type} (effects : Effects Body State)
  (faults : Faults Body Choices)

/-- Success with every leaf applied in order, or failure with nothing changed. -/
def Atomic (leaves : List (GenericCommand Body)) (state : State) :
    Except Thrown Bool × (State × Choices) → Prop
  | (.ok true, (after, _)) => after = effects.applyAll leaves state
  | (.ok false, (after, _)) => after = state
  | (.error _, _) => False

theorem acidRun_applied (started : Bool) {leaves : List (GenericCommand Body)}
    (state : State) {choices : Choices} (applied : faults.AllApplied leaves choices) :
    ∃ last, (effects.program faults).acidRun started leaves (state, choices) =
      (.ok true, (effects.applyAll leaves state, last)) := by
  induction leaves generalizing started state choices with
  | nil => exact ⟨choices, rfl⟩
  | cons command rest ih =>
      obtain ⟨here, later⟩ := applied
      obtain ⟨last, run⟩ := ih true (effects.apply command state) later
      refine ⟨last, ?_⟩
      simp only [Program.acidRun, doDo_eq, here, afterExecution, applyAll_cons]
      exact run

theorem acidRun_firstDiscarded {leaves : List (GenericCommand Body)} (state : State)
    {choices : Choices} (discarded : faults.FirstDiscarded leaves choices) :
    ∃ last, (effects.program faults).acidRun false leaves (state, choices) =
      (.ok false, (state, last)) := by
  cases leaves with
  | nil => cases discarded
  | cons command rest =>
      have here : (faults.execution command choices).1 = .discarded := discarded
      refine ⟨(faults.execution command choices).2, ?_⟩
      simp [Program.acidRun, doDo_eq, here, afterExecution]

/-! The converse. The log tells a leaf without effect apart. -/

theorem applyAll_log_length (leaves applied : List (GenericCommand Body)) :
    (log.applyAll leaves applied).length = applied.length + leaves.length := by
  induction leaves generalizing applied with
  | nil => rfl
  | cons command rest ih =>
      rw [applyAll_cons, ih]
      simp only [log, List.length_cons]
      omega

theorem acidRun_log_length (started : Bool) {leaves applied after : List (GenericCommand Body)}
    {choices last : Choices}
    (run : (log.program faults).acidRun started leaves (applied, choices) =
      (.ok true, (after, last))) :
    after.length ≤ applied.length + leaves.length ∧
      (after.length = applied.length + leaves.length → faults.AllApplied leaves choices) := by
  induction leaves generalizing started applied choices with
  | nil =>
      simp only [Program.acidRun, Prod.mk.injEq] at run
      obtain ⟨-, rfl, -⟩ := run
      exact ⟨Nat.le_refl _, fun _ => trivial⟩
  | cons command rest ih =>
      simp only [Program.acidRun, doDo_eq] at run
      cases ended : (faults.execution command choices).1 with
      | applied =>
          simp only [ended, afterExecution, log] at run
          obtain ⟨bound, exactly⟩ := ih true run
          simp only [List.length_cons] at bound exactly ⊢
          exact ⟨by omega, fun full => ⟨ended, exactly (by omega)⟩⟩
      | ignored =>
          simp only [ended, afterExecution] at run
          obtain ⟨bound, -⟩ := ih true run
          simp only [List.length_cons]
          exact ⟨by omega, fun full => by omega⟩
      | discarded =>
          cases started <;> simp [ended] at run

theorem firstDiscarded_of_acidRun {leaves : List (GenericCommand Body)} {state after : State}
    {choices last : Choices}
    (run : (effects.program faults).acidRun false leaves (state, choices) =
      (.ok false, (after, last))) :
    faults.FirstDiscarded leaves choices := by
  cases leaves with
  | nil => simp [Program.acidRun] at run
  | cons command rest =>
      simp only [Program.acidRun, doDo_eq] at run
      have halted (world : State × Choices) :=
        (effects.program faults).acidRun_true_ne_false rest world
      cases ended : (faults.execution command choices).1 with
      | applied =>
          simp only [ended] at run
          exact absurd (congrArg Prod.fst run) (halted _)
      | ignored =>
          simp only [ended] at run
          exact absurd (congrArg Prod.fst run) (halted _)
      | discarded => exact ended

theorem doCommand_eq_acidRun {command : GenericCommand Body}
    (acid : command.subCommandsAreAcid = true) (world : State × Choices) :
    (effects.program faults).doCommand command world =
      (effects.program faults).acidRun false command.leaves world := by
  rw [Program.doCommand, notifying_eq]
  exact (effects.program faults).doCommandUnder_eq_acidRun command false (by simp [acid]) world

/-- An ACID command is all or nothing for every state it may act on exactly if each of its
leaves takes effect or the first one is discarded. -/
theorem doCommand_atomic_iff (faults : Faults Body Choices) (command : GenericCommand Body)
    (choices : Choices) (acid : command.subCommandsAreAcid = true) :
    (∀ (State : Type) (effects : Effects Body State) (state : State),
      effects.Atomic command.leaves state
        ((effects.program faults).doCommand command (state, choices))) ↔
      faults.AllApplied command.leaves choices ∨ faults.FirstDiscarded command.leaves choices := by
  constructor
  · intro atomic
    have recorded := atomic _ log []
    rw [log.doCommand_eq_acidRun faults acid] at recorded
    rcases run : (log.program faults).acidRun false command.leaves ([], choices) with
      ⟨thrown | _ | _, after, last⟩
    · rw [run] at recorded
      exact recorded.elim
    · exact Or.inr (log.firstDiscarded_of_acidRun faults run)
    · rw [run] at recorded
      have all : after = log.applyAll command.leaves [] := recorded
      have full := applyAll_log_length command.leaves []
      rw [← all] at full
      exact Or.inl ((acidRun_log_length faults false run).2 full)
  · intro ended State effects state
    rw [effects.doCommand_eq_acidRun faults acid]
    rcases ended with applied | discarded
    · obtain ⟨last, run⟩ := effects.acidRun_applied faults false state applied
      rw [run]
      rfl
    · obtain ⟨last, run⟩ := effects.acidRun_firstDiscarded faults state discarded
      rw [run]
      rfl

/-! A parent of two leaves. -/

def acidPair : GenericCommand Nat :=
  .ofSubCommands 0 [.ofBody 1 false 4 0, .ofBody 2 false 4 0] false true
    ReservedCommandClassIds.acidCommandParent.id uint32Max

theorem doCommand_atomic_iff_acidPair :
    (∀ (State : Type) (effects : Effects Nat State) (state : State),
      effects.Atomic acidPair.leaves state
        ((effects.program .scripted).doCommand acidPair (state, [none, none]))) ↔
      Faults.scripted.AllApplied acidPair.leaves [none, none] ∨
        Faults.scripted.FirstDiscarded acidPair.leaves [none, none] :=
  doCommand_atomic_iff .scripted acidPair [none, none] rfl

/-- The second of two leaves is discarded: the first stays applied and the worker gets an
`AcidRollbackFailure`. -/
theorem doCommand_throws_secondDiscarded :
    ¬ ∀ (Body State Choices : Type) (effects : Effects Body State)
      (faults : Faults Body Choices) (command : GenericCommand Body) (state : State)
      (choices : Choices), command.subCommandsAreAcid = true →
      effects.Atomic command.leaves state
        ((effects.program faults).doCommand command (state, choices)) := by
  intro claim
  exact claim Nat (List (GenericCommand Nat)) (List (Option CommandError)) log .scripted acidPair []
    [none, some (.knownError 1)] rfl

end Effects

end LeanMiniViews
