import LeanMiniViews.Runs

/-!
The frames of the overlay: a thread says every now and then that a frame is due, and the message
loop runs it. The flag between them is atomic, and so is the one that ends the thread. A thread
takes one step at a time.
-/

namespace LeanMiniViews

namespace MiniViews

def msPerFrame : Nat := 25

def framesPerCycle : Nat := 500 / msPerFrame

end MiniViews

/-- Where `Updater::PushUpdates` stands: not started, before the look at `continueUpdating`,
before `TimedUpdate`, asleep, and past the loop. -/
inductive UpdaterStage where
  | absent
  | checking
  | updating
  | sleeping
  | ended
deriving DecidableEq

/-- Where `MiniViews::Run` stands. From `counting` to `clearing` it is in `RunFrame`: before
`frameNumber++`, before the actions of every cycle, before those of every frame and before the
flag is cleared. -/
inductive RunStage where
  | creating
  | starting
  | peeking
  | testing
  | counting
  | acting
  | painting
  | clearing
  | sleeping
  | clearingViews
  | stopping
  | joining
  | exited
deriving DecidableEq

inductive FrameEvent where
  | tick
  | begun
  | halfSecond
  | painted
  | cleared
deriving DecidableEq

/-- `past` is what happened, the latest first. -/
structure FrameLoop where
  continueUpdating : Bool
  hasFrameToRun : Bool
  frameNumber : Nat
  keepRunning : Bool
  updater : UpdaterStage
  stage : RunStage
  past : List FrameEvent
deriving DecidableEq

inductive Message where
  | quit
  | other
deriving DecidableEq

namespace FrameLoop

/-- `create` is told whether there is no other instance and the window can be created, and
`peek` what `PeekMessage` finds. -/
inductive Event where
  | create (succeeds : Bool)
  | peek (message : Option Message)
  | main
  | updater
deriving DecidableEq

def start : FrameLoop where
  continueUpdating := true
  hasFrameToRun := false
  frameNumber := 0
  keepRunning := true
  updater := .absent
  stage := .creating
  past := []

def timedUpdate (loop : FrameLoop) : FrameLoop :=
  { loop with hasFrameToRun := true, past := .tick :: loop.past }

def pushUpdates (loop : FrameLoop) : Option FrameLoop :=
  match loop.updater with
  | .absent => none
  | .checking =>
      some { loop with updater := if loop.continueUpdating then .updating else .ended }
  | .updating => some { loop.timedUpdate with updater := .sleeping }
  | .sleeping => some { loop with updater := .checking }
  | .ended => none

def create (loop : FrameLoop) (succeeds : Bool) : FrameLoop :=
  if succeeds then
    { loop with continueUpdating := true, updater := .checking, stage := .starting }
  else { loop with stage := .exited }

def peek (loop : FrameLoop) : Option Message → FrameLoop
  | some .quit => { loop with keepRunning := false }
  | some .other => loop
  | none => { loop with stage := .testing }

def nextFrameNumber (frameNumber : Nat) : Nat :=
  if frameNumber + 1 ≥ MiniViews.framesPerCycle then 0 else frameNumber + 1

/-- The rest of `MiniViews::Run`, with `RunFrame`. -/
def run (loop : FrameLoop) : Option FrameLoop :=
  match loop.stage with
  | .starting => some { loop with stage := .peeking }
  | .testing =>
      some (if loop.hasFrameToRun then
        { loop with stage := .counting, past := .begun :: loop.past }
      else { loop with stage := .sleeping })
  | .counting =>
      some { loop with frameNumber := nextFrameNumber loop.frameNumber, stage := .acting }
  | .acting =>
      some { loop with
        stage := .painting
        past := if loop.frameNumber = 0 then .halfSecond :: loop.past else loop.past }
  | .painting => some { loop with stage := .clearing, past := .painted :: loop.past }
  | .clearing =>
      some { loop with hasFrameToRun := false, stage := .sleeping, past := .cleared :: loop.past }
  | .sleeping => some { loop with stage := if loop.keepRunning then .peeking else .clearingViews }
  | .clearingViews => some { loop with stage := .stopping }
  | .stopping => some { loop with continueUpdating := false, stage := .joining }
  | .joining => if loop.updater = .ended then some { loop with stage := .exited } else none
  | .creating => none
  | .peeking => none
  | .exited => none

def step (loop : FrameLoop) : Event → Option FrameLoop
  | .create succeeds => if loop.stage = .creating then some (loop.create succeeds) else none
  | .peek message => if loop.stage = .peeking then some (loop.peek message) else none
  | .main => loop.run
  | .updater => loop.pushUpdates

end FrameLoop

/-! What a schedule of frames is. -/

namespace FrameEvent

def pending : List FrameEvent → Bool
  | [] => false
  | .tick :: _ => true
  | .cleared :: _ => false
  | .begun :: past => pending past
  | .halfSecond :: past => pending past
  | .painted :: past => pending past

inductive Phase where
  | idle
  | begun
  | painted
deriving DecidableEq

def phase : List FrameEvent → Phase
  | [] => .idle
  | .begun :: _ => .begun
  | .painted :: _ => .painted
  | .cleared :: _ => .idle
  | .tick :: past => phase past
  | .halfSecond :: past => phase past

/-- One frame at a time and only when one is due, and in every twentieth of them, before
anything is painted, the actions of the half second. -/
def Scheduled : List FrameEvent → Prop
  | [] => True
  | .tick :: past => Scheduled past
  | .begun :: past => Scheduled past ∧ phase past = .idle ∧ pending past = true
  | .halfSecond :: past =>
      Scheduled past ∧ phase past = .begun ∧
        past.count .halfSecond + 1 = (past.count .painted + 1) / 20
  | .painted :: past =>
      Scheduled past ∧ phase past = .begun ∧
        past.count .halfSecond = (past.count .painted + 1) / 20
  | .cleared :: past => Scheduled past ∧ phase past = .painted

theorem answered {since before : List FrameEvent} (idle : phase before = .idle)
    (scheduled : Scheduled (since ++ .tick :: before)) :
    .begun ∈ since ∨
      pending (since ++ .tick :: before) = true ∧ phase (since ++ .tick :: before) = .idle := by
  induction since with
  | nil => exact Or.inr ⟨rfl, idle⟩
  | cons event since ih =>
      rw [List.cons_append] at scheduled ⊢
      cases event with
      | begun => exact Or.inl List.mem_cons_self
      | tick =>
          rcases ih scheduled with begun | ⟨-, phase⟩
          · exact Or.inl (List.mem_cons_of_mem _ begun)
          · exact Or.inr ⟨rfl, phase⟩
      | halfSecond =>
          rcases ih scheduled.1 with begun | ⟨-, phase⟩
          · exact Or.inl (List.mem_cons_of_mem _ begun)
          · rw [scheduled.2.1] at phase
            cases phase
      | painted =>
          rcases ih scheduled.1 with begun | ⟨-, phase⟩
          · exact Or.inl (List.mem_cons_of_mem _ begun)
          · rw [scheduled.2.1] at phase
            cases phase
      | cleared =>
          rcases ih scheduled.1 with begun | ⟨-, phase⟩
          · exact Or.inl (List.mem_cons_of_mem _ begun)
          · rw [scheduled.2] at phase
            cases phase

end FrameEvent

namespace FrameLoop

open FrameEvent

def phaseOf : RunStage → Phase
  | .counting => .begun
  | .acting => .begun
  | .painting => .begun
  | .clearing => .painted
  | _ => .idle

def counted (loop : FrameLoop) : Nat :=
  loop.past.count .painted + if loop.stage = .acting ∨ loop.stage = .painting then 1 else 0

def actedFor (loop : FrameLoop) : Nat :=
  loop.past.count .painted + if loop.stage = .painting then 1 else 0

structure Follows (loop : FrameLoop) : Prop where
  scheduled : Scheduled loop.past
  flag : loop.hasFrameToRun = pending loop.past
  phase : phase loop.past = phaseOf loop.stage
  number : loop.frameNumber = loop.counted % 20
  halfSeconds : loop.past.count .halfSecond = loop.actedFor / 20

variable {loop next last : FrameLoop}

theorem start_follows : start.Follows := ⟨trivial, rfl, rfl, rfl, rfl⟩

theorem nextFrameNumber_mod (count : Nat) : nextFrameNumber (count % 20) = (count + 1) % 20 := by
  have frames : MiniViews.framesPerCycle = 20 := rfl
  rw [nextFrameNumber, frames]
  split
  · omega
  · omega

theorem Follows.pushUpdates (follows : loop.Follows) (pushed : loop.pushUpdates = some next) :
    next.Follows := by
  obtain ⟨scheduled, flag, phase, number, halfSeconds⟩ := follows
  unfold FrameLoop.pushUpdates at pushed
  split at pushed
  · cases pushed
  · obtain rfl := Option.some.inj pushed
    exact ⟨scheduled, flag, phase, number, halfSeconds⟩
  · obtain rfl := Option.some.inj pushed
    exact ⟨scheduled, rfl, phase, number, halfSeconds⟩
  · obtain rfl := Option.some.inj pushed
    exact ⟨scheduled, flag, phase, number, halfSeconds⟩
  · cases pushed

theorem Follows.run (follows : loop.Follows) (ran : loop.run = some next) : next.Follows := by
  obtain ⟨scheduled, flag, phase, number, halfSeconds⟩ := follows
  unfold counted at number
  unfold actedFor at halfSeconds
  unfold FrameLoop.run at ran
  cases stage : loop.stage
  all_goals simp only [stage, phaseOf, reduceCtorEq, or_self, or_true, or_false, if_true, if_false,
    Nat.add_zero] at ran phase number halfSeconds
  case starting =>
      obtain rfl := Option.some.inj ran
      exact ⟨scheduled, flag, phase, number, halfSeconds⟩
  case testing =>
      obtain rfl := Option.some.inj ran
      split
      · rename_i due
        exact ⟨⟨scheduled, phase, flag ▸ due⟩, flag, rfl, number, halfSeconds⟩
      · exact ⟨scheduled, flag, phase, number, halfSeconds⟩
  case counting =>
      obtain rfl := Option.some.inj ran
      refine ⟨scheduled, flag, phase, ?_, halfSeconds⟩
      rw [number]
      exact nextFrameNumber_mod _
  case acting =>
      obtain rfl := Option.some.inj ran
      by_cases zero : loop.frameNumber = 0
      · have due : loop.past.count .halfSecond + 1 = (loop.past.count .painted + 1) / 20 := by omega
        simp only [zero, if_true]
        refine ⟨⟨scheduled, phase, due⟩, flag, phase, ?_, ?_⟩
        · simp only [counted, List.count_cons, reduceCtorEq, or_true, if_true, beq_iff_eq,
            if_false, Nat.add_zero]
          omega
        · simp only [actedFor, List.count_cons, reduceCtorEq, if_true, beq_iff_eq, beq_self_eq_true,
            if_false, Nat.add_zero]
          exact due
      · simp only [zero, if_false]
        refine ⟨scheduled, flag, phase, ?_, ?_⟩
        · simp only [counted, or_true, if_true]
          exact number
        · simp only [actedFor, if_true]
          omega
  case painting =>
      obtain rfl := Option.some.inj ran
      refine ⟨⟨scheduled, phase, halfSeconds⟩, flag, rfl, ?_, ?_⟩
      · simp only [counted, List.count_cons, reduceCtorEq, or_self, if_false, beq_self_eq_true,
          if_true, Nat.add_zero]
        exact number
      · simp only [actedFor, List.count_cons, reduceCtorEq, if_false, beq_self_eq_true, beq_iff_eq,
          if_true, Nat.add_zero]
        exact halfSeconds
  case clearing =>
      obtain rfl := Option.some.inj ran
      exact ⟨⟨scheduled, phase⟩, rfl, rfl, number, halfSeconds⟩
  case sleeping =>
      obtain rfl := Option.some.inj ran
      split
      · exact ⟨scheduled, flag, phase, number, halfSeconds⟩
      · exact ⟨scheduled, flag, phase, number, halfSeconds⟩
  case clearingViews =>
      obtain rfl := Option.some.inj ran
      exact ⟨scheduled, flag, phase, number, halfSeconds⟩
  case stopping =>
      obtain rfl := Option.some.inj ran
      exact ⟨scheduled, flag, phase, number, halfSeconds⟩
  case joining =>
      split at ran
      · obtain rfl := Option.some.inj ran
        exact ⟨scheduled, flag, phase, number, halfSeconds⟩
      · cases ran

theorem follows_step (loop : FrameLoop) (event : Event) (follows : loop.Follows) :
    ∀ next ∈ step loop event, next.Follows := by
  intro next stepped
  cases event with
  | main => exact follows.run stepped
  | updater => exact follows.pushUpdates stepped
  | create succeeds =>
      obtain ⟨creating, created⟩ := Option.ite_none_right_eq_some.mp stepped
      obtain ⟨scheduled, flag, phase, number, halfSeconds⟩ := follows
      simp only [counted, actedFor, creating, phaseOf, reduceCtorEq, or_self,
        if_false] at phase number halfSeconds
      obtain rfl := Option.some.inj created
      unfold FrameLoop.create
      split
      · exact ⟨scheduled, flag, phase, number, halfSeconds⟩
      · exact ⟨scheduled, flag, phase, number, halfSeconds⟩
  | peek message =>
      obtain ⟨peeking, peeked⟩ := Option.ite_none_right_eq_some.mp stepped
      obtain ⟨scheduled, flag, phase, number, halfSeconds⟩ := follows
      obtain rfl := Option.some.inj peeked
      unfold FrameLoop.peek
      split
      · exact ⟨scheduled, flag, phase, number, halfSeconds⟩
      · exact ⟨scheduled, flag, phase, number, halfSeconds⟩
      · simp only [counted, actedFor, peeking, phaseOf, reduceCtorEq, or_self,
          if_false] at phase number halfSeconds
        exact ⟨scheduled, flag, phase, number, halfSeconds⟩

/-- In every interleaving the frames are scheduled, and no tick that comes between two frames is
lost: a frame has begun since, or will when the loop looks at the flag. -/
theorem frames_scheduled (events : List Event) (loop : FrameLoop)
    (reached : Runs.final step start events = some loop) :
    Scheduled loop.past ∧
      ∀ since before, loop.past = since ++ .tick :: before → FrameEvent.phase before = .idle →
        .begun ∈ since ∨ loop.hasFrameToRun = true := by
  have follows : loop.Follows := Runs.final_of_kept follows_step start_follows reached
  refine ⟨follows.scheduled, ?_⟩
  intro since before whole idle
  have scheduled := follows.scheduled
  rw [whole] at scheduled
  rcases answered idle scheduled with begun | ⟨pending, -⟩
  · exact Or.inl begun
  · rw [follows.flag, whole]
    exact Or.inr pending

theorem frames_scheduled_whilePainting :
    ∃ loop : FrameLoop, loop.past = [.cleared, .tick, .painted, .begun, .tick] ∧
      loop.hasFrameToRun = false ∧ Scheduled loop.past ∧
        ∀ since before, loop.past = since ++ .tick :: before → FrameEvent.phase before = .idle →
          .begun ∈ since ∨ loop.hasFrameToRun = true := by
  refine ⟨_, ?_, ?_, frames_scheduled
    [.create true, .main, .updater, .updater, .updater, .peek none, .main, .main, .main, .main,
      .updater, .updater, .main] _ rfl⟩
  · rfl
  · rfl

/-! The end of the thread. -/

/-- The thread is there from the creation of the window to the end of `StopTimedUpdates`. -/
structure Attended (loop : FrameLoop) : Prop where
  fresh : loop.stage = .creating → loop.updater = .absent
  absent : loop.updater = .absent → loop.stage = .creating ∨ loop.stage = .exited
  stopped : loop.stage = .joining → loop.continueUpdating = false
  exited : loop.stage = .exited → loop.updater = .absent ∨ loop.updater = .ended

theorem pushUpdates_keeps (pushed : loop.pushUpdates = some next) :
    next.stage = loop.stage ∧ next.continueUpdating = loop.continueUpdating ∧
      loop.updater ≠ .absent ∧ loop.updater ≠ .ended ∧ next.updater ≠ .absent := by
  unfold FrameLoop.pushUpdates at pushed
  cases updater : loop.updater
  all_goals rw [updater] at pushed
  case absent => cases pushed
  case ended => cases pushed
  case checking =>
      obtain rfl := Option.some.inj pushed
      refine ⟨rfl, rfl, by decide, by decide, ?_⟩
      cases loop.continueUpdating
      · simp
      · simp
  case updating =>
      obtain rfl := Option.some.inj pushed
      exact ⟨rfl, rfl, by decide, by decide, by simp⟩
  case sleeping =>
      obtain rfl := Option.some.inj pushed
      exact ⟨rfl, rfl, by decide, by decide, by simp⟩

theorem run_keeps (ran : loop.run = some next) :
    next.updater = loop.updater ∧ loop.stage ≠ .creating ∧ loop.stage ≠ .exited ∧
      next.stage ≠ .creating ∧
      (next.stage = .joining → next.continueUpdating = false) ∧
      (next.stage = .exited → loop.updater = .ended) := by
  unfold FrameLoop.run at ran
  cases stage : loop.stage
  all_goals simp only [stage] at ran
  case creating => cases ran
  case peeking => cases ran
  case exited => cases ran
  case joining =>
      obtain ⟨ended, ran⟩ := Option.ite_none_right_eq_some.mp ran
      obtain rfl := Option.some.inj ran
      exact ⟨rfl, by decide, by decide, by simp, fun joining => (by cases joining), fun _ => ended⟩
  all_goals obtain rfl := Option.some.inj ran
  case testing =>
      refine ⟨?_, by decide, by decide, ?_, ?_, ?_⟩
      · split <;> rfl
      · split <;> simp
      · split <;> simp
      · split <;> simp
  case sleeping =>
      refine ⟨rfl, by decide, by decide, ?_, ?_, ?_⟩
      · cases loop.keepRunning <;> simp
      · cases loop.keepRunning <;> simp
      · cases loop.keepRunning <;> simp
  all_goals exact ⟨rfl, by decide, by decide, by simp, by simp, by simp⟩

theorem attended_step (loop : FrameLoop) (event : Event) (attended : loop.Attended) :
    ∀ next ∈ step loop event, next.Attended := by
  intro next stepped
  obtain ⟨fresh, absent, stopped, exited⟩ := attended
  cases event with
  | main =>
      obtain ⟨updater, notCreating, notExited, later, joining, ended⟩ := run_keeps stepped
      refine ⟨fun creating => absurd creating later, ?_, joining, ?_⟩
      · intro gone
        rcases absent (updater ▸ gone) with creating | exited
        · exact absurd creating notCreating
        · exact absurd exited notExited
      · intro exited
        rw [updater, ended exited]
        exact Or.inr rfl
  | updater =>
      obtain ⟨stage, continues, notAbsent, notEnded, nextNotAbsent⟩ := pushUpdates_keeps stepped
      refine ⟨?_, fun gone => absurd gone nextNotAbsent, ?_, ?_⟩
      · intro creating
        exact absurd (fresh (stage ▸ creating)) notAbsent
      · intro joining
        rw [continues, stopped (stage ▸ joining)]
      · intro isExited
        rcases exited (stage ▸ isExited) with gone | ended
        · exact absurd gone notAbsent
        · exact absurd ended notEnded
  | create succeeds =>
      obtain ⟨creating, created⟩ := Option.ite_none_right_eq_some.mp stepped
      obtain rfl := Option.some.inj created
      unfold FrameLoop.create
      split
      · exact ⟨by simp, by simp, by simp, by simp⟩
      · exact ⟨by simp, fun _ => Or.inr rfl, by simp, fun _ => Or.inl (fresh creating)⟩
  | peek message =>
      obtain ⟨peeking, peeked⟩ := Option.ite_none_right_eq_some.mp stepped
      obtain rfl := Option.some.inj peeked
      unfold FrameLoop.peek
      split
      · exact ⟨fresh, absent, stopped, exited⟩
      · exact ⟨fresh, absent, stopped, exited⟩
      · refine ⟨by simp, ?_, by simp, by simp⟩
        intro gone
        rcases absent gone with creating | exited
        · rw [peeking] at creating
          cases creating
        · rw [peeking] at exited
          cases exited

def left (loop : FrameLoop) : Nat :=
  if loop.stage = .joining then
    match loop.updater with
    | .updating => 4
    | .sleeping => 3
    | .checking => 2
    | .ended => 1
    | .absent => 0
  else 0

/-- In `StopTimedUpdates` after the flag is down, or after `Run`. -/
def Ending (loop : FrameLoop) : Prop := loop.stage = .joining ∨ loop.stage = .exited

theorem exited_stuck (attended : loop.Attended) (exited : loop.stage = .exited) (event : Event) :
    step loop event = none := by
  cases event with
  | main => simp only [step, run, exited]
  | create succeeds => simp [step, exited]
  | peek message => simp [step, exited]
  | updater =>
      rcases attended.exited exited with gone | ended
      · simp only [step, pushUpdates, gone]
      · simp only [step, pushUpdates, ended]

theorem joining_step (attended : loop.Attended) (joining : loop.stage = .joining) :
    (∃ event next, step loop event = some next) ∧
      ∀ event, ∀ next ∈ step loop event, next.Ending ∧ next.left + 1 = loop.left := by
  have stopped := attended.stopped joining
  have noCreate (succeeds : Bool) : step loop (.create succeeds) = none := by simp [step, joining]
  have noPeek (message : Option Message) : step loop (.peek message) = none := by
    simp [step, joining]
  have waits (notEnded : loop.updater ≠ .ended) : step loop .main = none := by
    simp [step, run, joining, notEnded]
  -- one step of the one thread that can go on
  have only (which : Event) (next : FrameLoop) (stepped : step loop which = some next)
      (others : ∀ event, event ≠ which → step loop event = none)
      (goes : next.Ending ∧ next.left + 1 = loop.left) :
      (∃ event next, step loop event = some next) ∧
        ∀ event, ∀ next ∈ step loop event, next.Ending ∧ next.left + 1 = loop.left := by
    refine ⟨⟨which, next, stepped⟩, ?_⟩
    intro event other taken
    by_cases same : event = which
    · rw [same, stepped] at taken
      obtain rfl := Option.some.inj taken
      exact goes
    · rw [others event same] at taken
      cases taken
  have updaterOnly (notEnded : loop.updater ≠ .ended) :
      ∀ event, event ≠ .updater → step loop event = none := by
    intro event different
    cases event with
    | create succeeds => exact noCreate succeeds
    | peek message => exact noPeek message
    | main => exact waits notEnded
    | updater => exact absurd rfl different
  cases updater : loop.updater
  case absent =>
      rcases attended.absent updater with creating | exited
      · rw [joining] at creating
        cases creating
      · rw [joining] at exited
        cases exited
  case ended =>
      refine only .main { loop with stage := .exited } ?_ ?_ ?_
      · simp [step, run, joining, updater]
      · intro event different
        cases event with
        | create succeeds => exact noCreate succeeds
        | peek message => exact noPeek message
        | main => exact absurd rfl different
        | updater => simp [step, pushUpdates, updater]
      · simp [Ending, left, joining, updater]
  case checking =>
      refine only .updater { loop with updater := .ended } ?_
        (updaterOnly (by simp [updater])) ?_
      · simp [step, pushUpdates, updater, stopped]
      · simp [Ending, left, joining, updater]
  case updating =>
      refine only .updater { loop.timedUpdate with updater := .sleeping } ?_
        (updaterOnly (by simp [updater])) ?_
      · simp [step, pushUpdates, updater]
      · simp [Ending, left, timedUpdate, joining, updater]
  case sleeping =>
      refine only .updater { loop with updater := .checking } ?_
        (updaterOnly (by simp [updater])) ?_
      · simp [step, pushUpdates, updater]
      · simp [Ending, left, joining, updater]

theorem ending_run (attended : loop.Attended) (ending : loop.Ending) {events : List Event}
    (reached : Runs.final step loop events = some last) :
    last.Attended ∧ last.Ending ∧ events.length + last.left = loop.left := by
  induction events generalizing loop with
  | nil =>
      obtain rfl := Option.some.inj reached
      exact ⟨attended, ending, Nat.zero_add _⟩
  | cons event rest ih =>
      obtain ⟨next, stepped, reached⟩ := Option.bind_eq_some_iff.mp reached
      rcases ending with joining | exited
      · obtain ⟨nextEnding, fewer⟩ := (joining_step attended joining).2 event next stepped
        obtain ⟨lastAttended, lastEnding, count⟩ :=
          ih (attended_step loop event attended next stepped) nextEnding reached
        refine ⟨lastAttended, lastEnding, ?_⟩
        rw [List.length_cons]
        omega
      · rw [exited_stuck attended exited event] at stepped
        cases stepped

theorem left_le (loop : FrameLoop) : loop.left ≤ 4 := by
  unfold left
  split
  · split <;> omega
  · omega

/-- Once the flag is down the threads take four steps at most, whoever is first, and none is
stuck before `Run` is over. No step is left to either thread then. -/
theorem stopTimedUpdates_returns (events later : List Event) (loop last : FrameLoop)
    (reached : Runs.final step start events = some loop) (ending : loop.Ending)
    (continued : Runs.final step loop later = some last) :
    later.length ≤ 4 ∧ (last.stage = .exited ↔ ∀ event, step last event = none) := by
  have initial : start.Attended :=
    ⟨fun _ => rfl, fun _ => Or.inl rfl, by simp [start], by simp [start]⟩
  have attended : loop.Attended := Runs.final_of_kept attended_step initial reached
  obtain ⟨lastAttended, lastEnding, count⟩ := ending_run attended ending continued
  have bound := left_le loop
  refine ⟨by omega, exited_stuck lastAttended, ?_⟩
  intro stuck
  rcases lastEnding with joining | exited
  · obtain ⟨⟨event, next, stepped⟩, -⟩ := joining_step lastAttended joining
    rw [stuck event] at stepped
    cases stepped
  · exact exited

theorem stopTimedUpdates_returns_afterQuit :
    [FrameLoop.Event.updater, .updater, .updater, .main].length ≤ 4 ∧
      (RunStage.exited = .exited ↔
        ∀ event, step ⟨false, true, 0, false, .ended, .exited, [.tick]⟩ event = none) :=
  stopTimedUpdates_returns
    [.create true, .main, .updater, .peek (some .quit), .peek none, .main, .main, .main, .main]
    [.updater, .updater, .updater, .main] ⟨false, false, 0, false, .updating, .joining, []⟩ _ rfl
    (Or.inl rfl) rfl

end FrameLoop

end LeanMiniViews
