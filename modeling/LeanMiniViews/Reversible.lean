import Mathlib.Algebra.Group.Nat.Even
import Mathlib.Data.List.Nodup
import Mathlib.Logic.Function.Basic

/-!
Actions that are done one after the other and then reversed in the same order, from the first to
the last. The reversal of an action may use the state that the action was done in.
-/

/-- The reversal restores the state `before` the action from the state the action led to. What it
does in any other state is open. -/
structure Reversible (Action State : Type) where
  act : Action → State → State
  undo : Action → State → State → State
  undo_act : ∀ action before, undo action before (act action before) = before

namespace Reversible

variable {Action State : Type}

def actAll (act : Action → State → State) (actions : List Action) (state : State) : State :=
  actions.foldl (fun current action => act action current) state

/-- The state each action was done in last. -/
def remember [DecidableEq Action] (act : Action → State → State) :
    List Action → State → (Action → State) → Action → State
  | [], _, kept => kept
  | action :: rest, state, kept =>
      remember act rest (act action state) (Function.update kept action state)

/-- The actions lead back and forth between two states. -/
def Swings (act : Action → State → State) : List Action → State → State → Prop
  | [], _, _ => True
  | action :: rest, here, other => act action here = other ∧ Swings act rest other here

def undoAll (actions : Reversible Action State) (kept : Action → State) (undone : List Action)
    (state : State) : State :=
  undone.foldl (fun current action => actions.undo action (kept action) current) state

section Remember

variable (act : Action → State → State)

@[simp] theorem actAll_nil (state : State) : actAll act [] state = state := rfl

@[simp] theorem actAll_cons (action : Action) (rest : List Action) (state : State) :
    actAll act (action :: rest) state = actAll act rest (act action state) := rfl

theorem actAll_append (first second : List Action) (state : State) :
    actAll act (first ++ second) state = actAll act second (actAll act first state) :=
  List.foldl_append

variable [DecidableEq Action]

theorem remember_of_notMem {action : Action} {actions : List Action} (other : action ∉ actions)
    (state : State) (kept : Action → State) :
    remember act actions state kept action = kept action := by
  induction actions generalizing state kept with
  | nil => rfl
  | cons first rest ih =>
      rw [List.mem_cons, not_or] at other
      obtain ⟨here, later⟩ := other
      rw [remember, ih later, Function.update_of_ne here]

theorem remember_first {action : Action} {rest : List Action} (own : action ∉ rest)
    (state : State) (kept : Action → State) :
    remember act (action :: rest) state kept action = state := by
  rw [remember, remember_of_notMem act own, Function.update_self]

theorem remember_last (earlier : List Action) (action : Action) (state : State)
    (kept : Action → State) :
    remember act (earlier ++ [action]) state kept action = actAll act earlier state := by
  induction earlier generalizing state kept with
  | nil => exact Function.update_self action state kept
  | cons first rest ih =>
      rw [List.cons_append, remember, ih, actAll_cons]

end Remember

variable (actions : Reversible Action State)

@[simp] theorem undoAll_nil (kept : Action → State) (state : State) :
    actions.undoAll kept [] state = state := rfl

@[simp] theorem undoAll_cons (kept : Action → State) (action : Action) (rest : List Action)
    (state : State) :
    actions.undoAll kept (action :: rest) state =
      actions.undoAll kept rest (actions.undo action (kept action) state) := rfl

theorem undoAll_append (kept : Action → State) (first second : List Action) (state : State) :
    actions.undoAll kept (first ++ second) state =
      actions.undoAll kept second (actions.undoAll kept first state) :=
  List.foldl_append

theorem undoAll_congr {other : Reversible Action State} {undone : List Action}
    (same : ∀ action ∈ undone, actions.undo action = other.undo action) (kept : Action → State)
    (state : State) : actions.undoAll kept undone state = other.undoAll kept undone state := by
  induction undone generalizing state with
  | nil => rfl
  | cons action rest ih =>
      rw [undoAll_cons, undoAll_cons, same action List.mem_cons_self]
      exact ih (fun later member => same later (List.mem_cons_of_mem _ member)) _

/-- Doing and then undoing, each in the order given, ends where it began. -/
def Restored [DecidableEq Action] (done : List Action) (state : State) : Prop :=
  ∀ kept, actions.undoAll (remember actions.act done state kept) done
    (actAll actions.act done state) = state

/-! Reversals that put back the state they remember. -/

def PutsBack : Prop :=
  ∀ action before current, actions.undo action before current = before

/-- The last reversal decides. -/
theorem restored_iff_of_putsBack [DecidableEq Action] (putsBack : actions.PutsBack)
    (done : List Action) (state : State) :
    actions.Restored done state ↔ actAll actions.act done.dropLast state = state := by
  rcases List.eq_nil_or_concat done with rfl | ⟨earlier, last, rfl⟩
  · simp [Restored]
  · have ended (kept : Action → State) :
        actions.undoAll (remember actions.act (earlier ++ [last]) state kept)
          (earlier ++ [last]) (actAll actions.act (earlier ++ [last]) state) =
          actAll actions.act earlier state := by
      rw [undoAll_append, undoAll_cons, undoAll_nil, putsBack, remember_last]
    rw [List.concat_eq_append, List.dropLast_concat, Restored]
    simp only [ended]
    exact ⟨fun restored => restored fun _ => state, fun same _ => same⟩

/-! Reversals that remember nothing and are reversed by their actions. -/

structure Inverts : Prop where
  forgets : ∀ action first second current,
    actions.undo action first current = actions.undo action second current
  act_undo : ∀ action before current,
    actions.act action (actions.undo action before current) = current

theorem actAll_reverse_undoAll (inverts : actions.Inverts) (kept : Action → State)
    (undone : List Action) (state : State) :
    actAll actions.act undone.reverse (actions.undoAll kept undone state) = state := by
  induction undone generalizing state with
  | nil => rfl
  | cons action rest ih =>
      rw [List.reverse_cons, actAll_append, undoAll_cons, ih, actAll_cons, actAll_nil,
        inverts.act_undo]

theorem act_injective (inverts : actions.Inverts) (action : Action) :
    Function.Injective (actions.act action) := by
  intro first second same
  rw [← actions.undo_act action first, same, inverts.forgets action first second,
    actions.undo_act]

theorem actAll_injective (inverts : actions.Inverts) (done : List Action) :
    Function.Injective (actAll actions.act done) := by
  induction done with
  | nil => exact fun _ _ same => same
  | cons action rest ih => exact fun _ _ same => actions.act_injective inverts action (ih same)

/-- Reversing from the first to the last reverses what doing from the last to the first does. -/
theorem restored_iff_of_inverts [DecidableEq Action] (inverts : actions.Inverts)
    (done : List Action) (state : State) :
    actions.Restored done state ↔
      actAll actions.act done state = actAll actions.act done.reverse state := by
  have back (kept : Action → State) := actions.actAll_reverse_undoAll inverts
    (remember actions.act done state kept) done (actAll actions.act done state)
  constructor
  · intro restored
    have ended := back fun _ => state
    rw [restored] at ended
    exact ended.symm
  · intro same kept
    apply actions.actAll_injective inverts done.reverse
    rw [back kept, same]

/-! All reversals of given actions. -/

variable {act : Action → State → State}

theorem swings_actAll {done : List Action} {here other : State}
    (swings : Swings act done here other) :
    actAll act done here = if Even done.length then here else other := by
  induction done generalizing here other with
  | nil => simp
  | cons action rest ih =>
      obtain ⟨there, back⟩ := swings
      rw [actAll_cons, there, ih back, List.length_cons]
      by_cases even : Even rest.length
      · simp [even, Nat.even_add_one]
      · simp [even, Nat.even_add_one]

theorem swings_of_subsingleton [Subsingleton State] (done : List Action) (here other : State) :
    Swings act done here other := by
  induction done generalizing here other with
  | nil => trivial
  | cons action rest ih => exact ⟨Subsingleton.elim _ _, ih other here⟩

theorem undoAll_of_swings [DecidableEq Action] {done : List Action} (own : done.Nodup)
    {here other : State} (swings : Swings actions.act done here other) (kept : Action → State) :
    actions.undoAll (remember actions.act done here kept) done other =
      if Even done.length then other else here := by
  induction done generalizing here other kept with
  | nil => simp
  | cons action rest ih =>
      obtain ⟨notLater, ownRest⟩ := List.nodup_cons.mp own
      obtain ⟨there, back⟩ := swings
      rw [undoAll_cons, remember_first _ notLater, ← there, actions.undo_act, remember, there,
        ih ownRest back, List.length_cons]
      by_cases even : Even rest.length
      · simp [even, Nat.even_add_one]
      · simp [even, Nat.even_add_one]

open Classical in
/-- Another reversal of one action: it answers `wrong` in a state that the action did not lead
to. -/
noncomputable def stray [DecidableEq Action] (action : Action) (wrong : State) :
    Reversible Action State where
  act := actions.act
  undo := Function.update actions.undo action fun before current =>
    if current = actions.act action before then before else wrong
  undo_act other before := by
    by_cases same : other = action
    · subst same
      simp
    · rw [Function.update_of_ne same, actions.undo_act]

def puttingBack (act : Action → State → State) : Reversible Action State where
  act := act
  undo _ before _ := before
  undo_act _ _ := rfl

theorem undoAll_stray [DecidableEq Action] {action : Action} {rest : List Action}
    (own : action ∉ rest) {here current : State} (astray : actions.act action here ≠ current)
    (wrong : State) (kept : Action → State) :
    (actions.stray action wrong).undoAll kept rest
        ((actions.stray action wrong).undo action here current) =
      actions.undoAll kept rest wrong := by
  have answers : (actions.stray action wrong).undo action here current = wrong := by
    simp [stray, astray.symm]
  rw [answers]
  apply undoAll_congr
  intro other member
  have different : other ≠ action := fun same => own (same ▸ member)
  exact Function.update_of_ne different _ _

theorem swings_unique {done : List Action} {here first second goal : State}
    (one : Swings act done here first ∧ goal = if Even done.length then first else here)
    (two : Swings act done here second ∧ goal = if Even done.length then second else here) :
    first = second := by
  cases done with
  | nil => simpa using one.2.symm.trans two.2
  | cons action rest => exact one.1.1.symm.trans two.1.1

/-- Where every reversal leads to one state, each of them starts where its action ended: from
elsewhere it could lead anywhere. -/
theorem swings_of_forced [DecidableEq Action] [Nontrivial State] {done : List Action}
    (own : done.Nodup) {here current goal : State} {kept : Action → State}
    (forced : ∀ actions : Reversible Action State, actions.act = act →
      actions.undoAll (remember act done here kept) done current = goal) :
    Swings act done here current ∧ goal = if Even done.length then current else here := by
  induction done generalizing here current kept with
  | nil =>
      have ended := forced (puttingBack act) rfl
      exact ⟨trivial, by simpa using ended.symm⟩
  | cons action rest ih =>
      obtain ⟨notLater, ownRest⟩ := List.nodup_cons.mp own
      have reached : act action here = current := by
        by_contra astray
        have anywhere (wrong : State) :
            Swings act rest (act action here) wrong ∧
              goal = if Even rest.length then wrong else act action here := by
          apply ih ownRest
          intro actions same
          have elsewhere : actions.act action here ≠ current := same ▸ astray
          have ended := forced (actions.stray action wrong) same
          rw [undoAll_cons, remember_first _ notLater, undoAll_stray _ notLater elsewhere] at ended
          exact ended
        obtain ⟨first, second, different⟩ := exists_pair_ne State
        exact different (swings_unique (anywhere first) (anywhere second))
      have later : ∀ actions : Reversible Action State, actions.act = act →
          actions.undoAll (remember act rest current (Function.update kept action here)) rest
            here = goal := by
        intro actions same
        have back : actions.undo action here current = here := by
          rw [← reached, ← same]
          exact actions.undo_act action here
        have ended := forced actions same
        rw [undoAll_cons, remember_first _ notLater, back, remember, reached] at ended
        exact ended
      obtain ⟨back, ended⟩ := ih ownRest later
      refine ⟨⟨reached, back⟩, ?_⟩
      rw [ended, List.length_cons]
      by_cases even : Even rest.length
      · simp [even, Nat.even_add_one]
      · simp [even, Nat.even_add_one]

/-- Every reversal restores the state exactly where the actions lead back and forth between two
states and the first reversal finds the other one. -/
theorem all_restored_iff [DecidableEq Action] {done : List Action} (own : done.Nodup)
    (state : State) :
    (∀ actions : Reversible Action State, actions.act = act → actions.Restored done state) ↔
      ∃ other, Swings act done state other ∧ (Even done.length → other = state) := by
  constructor
  · intro restored
    have forced : ∀ actions : Reversible Action State, actions.act = act →
        actions.undoAll (remember act done state fun _ => state) done (actAll act done state) =
          state := by
      rintro actions rfl
      exact restored actions rfl _
    rcases subsingleton_or_nontrivial State with single | several
    · exact ⟨state, swings_of_subsingleton done state state, fun _ => rfl⟩
    · obtain ⟨swings, ended⟩ := swings_of_forced own forced
      refine ⟨actAll act done state, swings, fun even => ?_⟩
      rw [if_pos even] at ended
      exact ended.symm
  · rintro ⟨other, swings, closes⟩ actions rfl kept
    rw [swings_actAll swings]
    by_cases even : Even done.length
    · rw [if_pos even]
      obtain rfl := closes even
      rw [actions.undoAll_of_swings own swings, if_pos even]
    · rw [if_neg even, actions.undoAll_of_swings own swings, if_neg even]

theorem swings_single (action : Action) (state : State) :
    ∃ other, Swings act [action] state other ∧ (Even [action].length → other = state) :=
  ⟨act action state, ⟨rfl, trivial⟩, fun even => by simp at even⟩

theorem actAll_succ (done : List Action) (count : Nat) :
    actAll (fun _ => Nat.succ) done count = count + done.length := by
  induction done generalizing count with
  | nil => rfl
  | cons action rest ih =>
      rw [actAll_cons, ih, List.length_cons]
      omega

/-- A single action is restored whatever it is. Of several, the last to be reversed puts back
what it remembers. -/
theorem always_restored_iff [DecidableEq Action] {done : List Action} (some : done ≠ []) :
    (∀ (State : Type) (actions : Reversible Action State) (state : State),
        actions.Restored done state) ↔ done.length = 1 := by
  constructor
  · intro restored
    have counted := restored Nat (puttingBack fun _ => Nat.succ) 0
    rw [restored_iff_of_putsBack _ (fun _ _ _ => rfl)] at counted
    have none : done.dropLast.length = 0 := by
      rw [← Nat.zero_add done.dropLast.length, ← actAll_succ]
      exact counted
    have filled := List.length_pos_of_ne_nil some
    rw [List.length_dropLast] at none
    omega
  · intro single State actions state
    obtain ⟨action, rfl⟩ := List.length_eq_one_iff.mp single
    exact (all_restored_iff (List.nodup_singleton action) state).mpr
      (swings_single action state) actions rfl

end Reversible
