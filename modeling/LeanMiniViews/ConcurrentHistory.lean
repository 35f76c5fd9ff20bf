import LeanMiniViews.CommandQueue
import LeanMiniViews.History
import LeanMiniViews.WorkerContainment

/-!
Many clients and one history: whatever the interleaving, the stacks of a type are those of the
work on that type alone, in the order of the queue.
-/

namespace LeanMiniViews

def Item.IsPlain {Body : Type} : Item Body → Prop
  | clientCommand command => command.IsPlain
  | undoCommand _ => True
  | redoCommand _ => True
  | killCommand => True

def Request.IsPlain {Body : Type} (request : Request Body) : Prop :=
  ∀ item ∈ request.items, item.IsPlain

theorem Item.Executes.plain {Body : Type} {item : Item Body} {work : Work Body}
    (executes : item.Executes (some work)) (plain : item.IsPlain) : work.IsPlain := by
  cases work with
  | tryUndo undoRedoTypeId => trivial
  | tryRedo undoRedoTypeId => trivial
  | doCommand command =>
      cases item with
      | clientCommand asked =>
          obtain rfl : command = asked := executes
          exact plain
      | undoCommand requested => cases executes
      | redoCommand requested => cases executes
      | killCommand => cases executes

namespace Commander

variable {World Body : Type} {program : Program World Body} {commander next : Commander World Body}

def Event.IsPlain : Event Body → Prop
  | .arrive request => request.IsPlain
  | _ => True

def PlainCalls (commander : Commander World Body) : Prop :=
  ∀ call ∈ commander.calls, call.request.IsPlain

/-! The calls only ask for what arrived. -/

theorem number_items (serial : Nat) (items : List (Item Body)) :
    (Entry.number serial items).map Entry.item = items := by
  induction items generalizing serial with
  | nil => rfl
  | cons item rest ih => rw [Entry.number, List.map_cons, ih]

theorem Queued.enqueued_plain {order : List Nat} (queued : commander.Queued order)
    (plain : commander.PlainCalls) :
    ∀ entry ∈ commander.enqueued, entry.item.IsPlain := by
  intro entry member
  have item : entry.item ∈ commander.enqueued.map Entry.item := List.mem_map_of_mem member
  rw [queued.queue, number_items, List.mem_flatMap] at item
  obtain ⟨index, -, asked⟩ := item
  unfold itemsOf at asked
  cases found : commander.calls[index]? with
  | none => simp [found] at asked
  | some call =>
      rw [found] at asked
      exact plain call (List.mem_of_getElem? found) entry.item asked

theorem works_plain {front : List (Entry Body)} {performed : List (Nat × Option (Work Body))}
    (plain : ∀ entry ∈ front, entry.item.IsPlain)
    (executed : List.Forall₂ Entry.Executes front performed) :
    ∀ work ∈ performed.filterMap Prod.snd, work.IsPlain := by
  induction executed with
  | nil => simp
  | @cons entry result front performed executes _ ih =>
      obtain ⟨here, later⟩ := List.forall_mem_cons.mp plain
      obtain ⟨serial, work⟩ := result
      intro other member
      rw [List.filterMap_cons] at member
      cases work with
      | none => exact ih later other member
      | some work =>
          rcases List.mem_cons.mp member with rfl | member
          · exact executes.2.plain here
          · exact ih later other member

end Commander

/-! One type alone. -/

namespace Commander

open Components

variable {Body : Type} {Component : UInt32 → Type}

/-- What holds of the threads while only plain work is asked of them. -/
structure PlainRun (components : Components Body Component)
    (initial : ∀ undoRedoTypeId, Component undoRedoTypeId)
    (commander : Commander ((∀ undoRedoTypeId, Component undoRedoTypeId) × Unit) Body) :
    Prop where
  calls : commander.PlainCalls
  serial : commander.Serial (components.effects.program .never) (initial, ())
  queued : ∃ order, commander.Queued order

section PlainRun

variable {components : Components Body Component}
  {initial : ∀ undoRedoTypeId, Component undoRedoTypeId}
  {commander : Commander ((∀ undoRedoTypeId, Component undoRedoTypeId) × Unit) Body}

theorem PlainRun.enqueued_plain (run : commander.PlainRun components initial) :
    ∀ entry ∈ commander.enqueued, entry.item.IsPlain := by
  obtain ⟨order, queued⟩ := run.queued
  exact queued.enqueued_plain run.calls

theorem PlainRun.follows (run : commander.PlainRun components initial) :
    commander.worker.zippers =
        Zipper.moves (fun _ => Zipper.empty)
          ((commander.performed.filterMap Prod.snd).map Work.move) ∧
      components.Follows initial commander.worker := by
  have items := run.enqueued_plain
  obtain ⟨front, queue, executed⟩ := run.serial.inOrder
  have works := works_plain
    (fun entry member => items entry (queue ▸ List.mem_append_left _ member)) executed
  obtain ⟨last, performed, zippers, follows⟩ := follows_run (follows_start initial) works
  have sequential := run.serial.sequential
  unfold Sequential at sequential
  obtain rfl : last = commander.worker := Option.some.inj (performed.symm.trans sequential)
  exact ⟨zippers, follows⟩

theorem PlainRun.contained (run : commander.PlainRun components initial) (event : Event Body) :
    commander.Contained (components.effects.program .never) event := by
  cases event with
  | worker wakes =>
      cases executing : commander.stage with
      | executing entry =>
          have waits : entry ∈ commander.waiting := by
            simp [waiting, executing, WorkerStage.toExecute]
          obtain ⟨front, queue, -⟩ := run.serial.inOrder
          have plain := run.enqueued_plain entry (queue ▸ List.mem_append_right _ waits)
          have runs := workOf_executes commander entry.item
          simp only [Contained, executing]
          intro work asked
          rw [Option.mem_def.mp asked] at runs
          obtain ⟨next, performed, -⟩ := follows_step run.follows.2 work (runs.plain plain)
          rw [← Worker.perform_isSome_iff, performed]
          rfl
      | _ => simp [Contained, executing]
  | _ => trivial

end PlainRun

end Commander

end LeanMiniViews
