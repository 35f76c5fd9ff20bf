import Mathlib.Logic.Function.Basic

/-!
Histories with undo and redo: a pair of stacks for each key, and the value that a stack of
invertible actions stands for.
-/

/-- Two stacks, the latest entry first in both. -/
structure Zipper (Entry : Type) where
  undo : List Entry
  redo : List Entry
  deriving DecidableEq, Repr

namespace Zipper

variable {Entry Value : Type}

def empty : Zipper Entry := ⟨[], []⟩

def push (zipper : Zipper Entry) (entry : Entry) : Zipper Entry := ⟨entry :: zipper.undo, []⟩

def back (zipper : Zipper Entry) : Zipper Entry :=
  match zipper.undo with
  | [] => zipper
  | entry :: earlier => ⟨earlier, entry :: zipper.redo⟩

def forth (zipper : Zipper Entry) : Zipper Entry :=
  match zipper.redo with
  | [] => zipper
  | entry :: later => ⟨entry :: zipper.undo, later⟩

theorem back_nil {zipper : Zipper Entry} (none : zipper.undo = []) : zipper.back = zipper := by
  unfold back
  rw [none]

theorem back_cons {zipper : Zipper Entry} {entry : Entry} {earlier : List Entry}
    (some : zipper.undo = entry :: earlier) :
    zipper.back = ⟨earlier, entry :: zipper.redo⟩ := by
  unfold back
  rw [some]

theorem forth_nil {zipper : Zipper Entry} (none : zipper.redo = []) : zipper.forth = zipper := by
  unfold forth
  rw [none]

theorem forth_cons {zipper : Zipper Entry} {entry : Entry} {later : List Entry}
    (some : zipper.redo = entry :: later) :
    zipper.forth = ⟨entry :: zipper.undo, later⟩ := by
  unfold forth
  rw [some]

def All (holds : Entry → Prop) (zipper : Zipper Entry) : Prop :=
  (∀ entry ∈ zipper.undo, holds entry) ∧ ∀ entry ∈ zipper.redo, holds entry

section All

variable {holds : Entry → Prop} {zipper : Zipper Entry}

theorem All.push {entry : Entry} (all : zipper.All holds) (new : holds entry) :
    (zipper.push entry).All holds := by
  refine ⟨?_, by simp [Zipper.push]⟩
  intro other member
  rcases List.mem_cons.mp member with rfl | earlier
  · exact new
  · exact all.1 other earlier

theorem All.back (all : zipper.All holds) : zipper.back.All holds := by
  cases stack : zipper.undo with
  | nil => rwa [back_nil stack]
  | cons entry earlier =>
      rw [back_cons stack]
      have old : ∀ other ∈ entry :: earlier, holds other := stack ▸ all.1
      refine ⟨fun other member => old other (List.mem_cons_of_mem _ member), ?_⟩
      intro other member
      rcases List.mem_cons.mp member with rfl | later
      · exact old other List.mem_cons_self
      · exact all.2 other later

theorem All.forth (all : zipper.All holds) : zipper.forth.All holds := by
  cases stack : zipper.redo with
  | nil => rwa [forth_nil stack]
  | cons entry later =>
      rw [forth_cons stack]
      have old : ∀ other ∈ entry :: later, holds other := stack ▸ all.2
      refine ⟨?_, fun other member => old other (List.mem_cons_of_mem _ member)⟩
      intro other member
      rcases List.mem_cons.mp member with rfl | earlier
      · exact old other List.mem_cons_self
      · exact all.1 other earlier

end All

/-- What a stack of actions makes of a first value, the oldest action first. -/
def replay (act : Entry → Value → Value) (initial : Value) (stack : List Entry) : Value :=
  stack.foldr act initial

section Replay

variable (act : Entry → Value → Value) (initial : Value)

theorem replay_push (zipper : Zipper Entry) (entry : Entry) :
    replay act initial (zipper.push entry).undo =
      act entry (replay act initial zipper.undo) := rfl

theorem replay_back {unact : Entry → Value → Value}
    (inverse : ∀ entry value, unact entry (act entry value) = value)
    {zipper : Zipper Entry} {entry : Entry} {earlier : List Entry}
    (some : zipper.undo = entry :: earlier) :
    replay act initial zipper.back.undo = unact entry (replay act initial zipper.undo) := by
  rw [back_cons some, some]
  exact (inverse entry _).symm

theorem replay_forth {zipper : Zipper Entry} {entry : Entry} {later : List Entry}
    (some : zipper.redo = entry :: later) :
    replay act initial zipper.forth.undo = act entry (replay act initial zipper.undo) := by
  rw [forth_cons some]
  rfl

end Replay

/-! One zipper for each key. -/

inductive Move (Key Entry : Type) where
  | push (key : Key) (entry : Entry)
  | back (key : Key)
  | forth (key : Key)

variable {Key : Type} [DecidableEq Key]

def move (zippers : Key → Zipper Entry) : Move Key Entry → (Key → Zipper Entry)
  | .push key entry => Function.update zippers key ((zippers key).push entry)
  | .back key => Function.update zippers key (zippers key).back
  | .forth key => Function.update zippers key (zippers key).forth

def moves (zippers : Key → Zipper Entry) (made : List (Move Key Entry)) : Key → Zipper Entry :=
  made.foldl move zippers

theorem all_move {holds : Key → Entry → Prop} {zippers : Key → Zipper Entry}
    (all : ∀ key, (zippers key).All (holds key)) (made : Move Key Entry)
    (new : ∀ key entry, made = .push key entry → holds key entry) (key : Key) :
    (move zippers made key).All (holds key) := by
  have updated (changed : Key) (zipper : Zipper Entry) (kept : zipper.All (holds changed)) :
      (Function.update zippers changed zipper key).All (holds key) := by
    by_cases same : key = changed
    · subst same
      rwa [Function.update_self]
    · rw [Function.update_of_ne same]
      exact all key
  cases made with
  | push changed entry => exact updated changed _ ((all changed).push (new changed entry rfl))
  | back changed => exact updated changed _ (all changed).back
  | forth changed => exact updated changed _ (all changed).forth

def Move.key : Move Key Entry → Key
  | .push key _ => key
  | .back key => key
  | .forth key => key

end Zipper
