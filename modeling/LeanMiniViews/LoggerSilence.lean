import LeanMiniViews.LoggerRouting
import Mathlib.Data.List.Nodup

/-!
Loggers that are off, in a network of loggers where any number may share an aggregator, over
every sequence of calls.
-/

namespace LeanMiniViews.Logger

open Forwarding

/-! The methods. -/

inductive Method where
  | log (level : LogLevel)
  | fatal
  | error
  | warn
  | info
  | debug
  | trace

namespace Method

def level : Method → LogLevel
  | log level => level
  | fatal => LogLevel.fatal
  | error => LogLevel.error
  | warn => LogLevel.warn
  | info => LogLevel.info
  | debug => LogLevel.debug
  | trace => LogLevel.trace

def start (clock : Nat → List Char) : Method → List Logger → List Logger
  | log level => Logger.log clock level
  | fatal => Logger.fatal clock
  | error => Logger.error clock
  | warn => Logger.warn clock
  | info => Logger.info clock
  | debug => Logger.debug clock
  | trace => Logger.trace clock

def say (clock : Nat → List Char) (message : List Char) : Method → List Logger → List Logger
  | log level => logMessage clock level message
  | fatal => fatalMessage clock message
  | error => errorMessage clock message
  | warn => warnMessage clock message
  | info => infoMessage clock message
  | debug => debugMessage clock message
  | trace => traceMessage clock message

def report (clock : Nat → List Char) (message what : List Char) :
    Method → List Logger → List Logger
  | log level => logException clock level message what
  | fatal => fatalException clock message what
  | error => errorException clock message what
  | warn => warnException clock message what
  | info => infoException clock message what
  | debug => debugException clock message what
  | trace => traceException clock message what

theorem start_eq (clock : Nat → List Char) (method : Method) :
    method.start clock = Logger.log clock method.level := by
  cases method <;> rfl

theorem say_eq (clock : Nat → List Char) (message : List Char) (method : Method) :
    method.say clock message = logMessage clock method.level message := by
  cases method <;> rfl

theorem report_eq (clock : Nat → List Char) (message what : List Char) (method : Method) :
    method.report clock message what =
      logMessage clock method.level (message ++ ['\n'] ++ what) := by
  cases method <;> rfl

end Method

/-- What is called on a logger, with the times at which its chain asks for one. -/
inductive Call where
  | start (method : Method) (clock : Nat → List Char)
  | say (method : Method) (clock : Nat → List Char) (message : List Char)
  | report (method : Method) (clock : Nat → List Char) (message what : List Char)
  | insert (characters : List Char)

namespace Call

def run (win32 : Bool) : Call → List Logger → List Logger
  | start method clock => method.start clock
  | say method clock message => method.say clock message
  | report method clock message what => method.report clock message what
  | insert characters => stream win32 characters

/-- A method was called with the level that stands for no messages at all. -/
def AtOff : Call → Prop
  | start method _ => method.level = LogLevel.off
  | say method _ _ => method.level = LogLevel.off
  | report method _ _ _ => method.level = LogLevel.off
  | insert _ => False

end Call

/-! A logger that is off, at any place of a chain. -/

/-- What a call did to a logger that is off. -/
structure StaysOff (loud : Prop) (before after : Logger) : Prop where
  off : after.logLevel = LogLevel.off
  appended : ∃ added, (added = [] ↔ ¬ loud) ∧
    after.outputStream = before.outputStream.map fun written => written ++ added

namespace StaysOff

variable {first second : Prop} {before middle after : Logger}

theorem of_same (off : after.logLevel = LogLevel.off) (quiet : ¬ first)
    (same : after.outputStream = before.outputStream) : StaysOff first before after := by
  refine ⟨off, [], iff_of_true rfl quiet, ?_⟩
  simp [same]

theorem of_written {text : List Char} (off : before.logLevel = LogLevel.off) (loud : first)
    (nonempty : text ≠ [])
    (same : middle.outputStream = before.outputStream ∧ middle.logLevel = before.logLevel) :
    StaysOff first before (middle.write text) := by
  refine ⟨?_, text, iff_of_false nonempty (not_not.mpr loud), ?_⟩
  · rw [write_logLevel, same.2, off]
  · simp only [write, same.1]

theorem trans (earlier : StaysOff first before middle) (later : StaysOff second middle after) :
    StaysOff (first ∨ second) before after := by
  obtain ⟨-, added, quiet, grew⟩ := earlier
  obtain ⟨off, more, quietLater, grewLater⟩ := later
  refine ⟨off, added ++ more, ?_, ?_⟩
  · rw [List.append_eq_nil_iff, quiet, quietLater, not_or]
  · simp [grewLater, grew, Function.comp_def]

end StaysOff

theorem le_off_iff (level : LogLevel) : level ≤ LogLevel.off ↔ level = LogLevel.off := by
  rw [UInt32.le_iff_toNat_le, ← UInt32.toNat_inj]
  exact Nat.le_zero

theorem off_admits (logger : Logger) : admits LogLevel.off logger = true := by
  simp [admits, LogLevel.off]

theorem startRecord_off {logger : Logger} (off : logger.logLevel = LogLevel.off)
    (level : LogLevel) (timestamp : List Char) :
    StaysOff (level = LogLevel.off) logger (startRecord level timestamp logger) := by
  simp only [startRecord, off, le_off_iff]
  split
  · rename_i atOff
    exact StaysOff.of_written off atOff (getPrefix_ne_nil timestamp level) ⟨rfl, off.symm⟩
  · rename_i aboveOff
    exact StaysOff.of_same rfl aboveOff rfl

theorem log_off (clock : Nat → List Char) (level : LogLevel) {chain : List Logger}
    {index : Nat} {logger : Logger} (member : chain[index]? = some logger)
    (off : logger.logLevel = LogLevel.off) :
    ∃ after ∈ (log clock level chain)[index]?, StaysOff (level = LogLevel.off) logger after := by
  cases chain with
  | nil => simp at member
  | cons first aggregators =>
      rw [log_eq]
      cases index with
      | zero =>
          obtain rfl : first = logger := by simpa using member
          exact ⟨_, rfl, startRecord_off off level (clock 0)⟩
      | succ depth =>
          have entry : aggregators[depth]? = some logger := by simpa using member
          rw [List.getElem?_cons_succ, forward_getElem?, entry]
          refine ⟨_, rfl, ?_⟩
          dsimp only
          split
          · exact startRecord_off off level (clock (depth + 1))
          · rename_i cut
            refine StaysOff.of_same off (fun atOff => cut ?_) rfl
            subst atOff
            exact fun _ _ other _ => off_admits other

theorem logMessage_off (clock : Nat → List Char) (level : LogLevel) (message : List Char)
    {chain : List Logger} {index : Nat} {logger : Logger} (member : chain[index]? = some logger)
    (off : logger.logLevel = LogLevel.off) :
    ∃ after ∈ (logMessage clock level message chain)[index]?,
      StaysOff (level = LogLevel.off) logger after := by
  rw [logMessage_eq, broadcast_getElem?, member]
  refine ⟨_, rfl, ?_⟩
  simp only [off, le_off_iff]
  split
  · rename_i atOff
    exact StaysOff.of_written off atOff (by simp) ⟨rfl, rfl⟩
  · rename_i aboveOff
    exact StaysOff.of_same off aboveOff rfl

theorem overflow_off (win32 : Bool) (c : Char) {chain : List Logger} {index : Nat}
    {logger : Logger} (member : chain[index]? = some logger)
    (off : logger.logLevel = LogLevel.off) :
    (overflow win32 chain c)[index]? = some logger := by
  cases chain with
  | nil => simp at member
  | cons first aggregators =>
      cases skips : win32 && c == '\r' with
      | true => simpa [overflow, skips] using member
      | false =>
          rw [overflow_eq win32 first aggregators c skips]
          cases index with
          | zero =>
              obtain rfl : first = logger := by simpa using member
              rw [List.getElem?_cons_zero, if_neg]
              rintro ⟨below, above⟩
              rw [off, le_off_iff] at below
              exact absurd below (UInt32.ne_of_lt above).symm
          | succ depth =>
              have entry : aggregators[depth]? = some logger := by simpa using member
              have silent (level : LogLevel) : putAdmitted level c logger = logger := by
                rw [putAdmitted, if_neg]
                rintro ⟨-, above⟩
                exact absurd off (UInt32.ne_of_lt above).symm
              rw [List.getElem?_cons_succ, forward_getElem?, entry]
              simp [silent]

theorem stream_off (win32 : Bool) (characters : List Char) {chain : List Logger} {index : Nat}
    {logger : Logger} (member : chain[index]? = some logger)
    (off : logger.logLevel = LogLevel.off) :
    (stream win32 characters chain)[index]? = some logger := by
  induction characters generalizing chain with
  | nil => exact member
  | cons c rest ih => exact ih (overflow_off win32 c member off)

theorem Call.run_off (win32 : Bool) (call : Call) {chain : List Logger} {index : Nat}
    {logger : Logger} (member : chain[index]? = some logger)
    (off : logger.logLevel = LogLevel.off) :
    ∃ after ∈ (call.run win32 chain)[index]?, StaysOff call.AtOff logger after := by
  cases call with
  | start method clock =>
      simp only [run, Method.start_eq]
      exact log_off clock method.level member off
  | say method clock message =>
      simp only [run, Method.say_eq]
      exact logMessage_off clock method.level message member off
  | report method clock message what =>
      simp only [run, Method.report_eq]
      exact logMessage_off clock method.level _ member off
  | insert characters =>
      exact ⟨logger, stream_off win32 characters member off, StaysOff.of_same off id rfl⟩

/-! Networks of loggers. -/

/-- Every logger with its chain: itself, its aggregator, the aggregator of that and so on. A cycle
of aggregators has no such chains, and the source does not return from a call there. -/
structure Network where
  logger : Nat → Logger
  chain : Nat → List Nat
  linked : ∀ name, ∃ rest, chain name = name :: rest ∧
    (rest = [] ∨ ∃ aggregator, rest = chain aggregator)

namespace Network

theorem chain_drop (network : Network) {name member index : Nat}
    (found : (network.chain name)[index]? = some member) :
    network.chain member = (network.chain name).drop index := by
  induction index generalizing name with
  | zero =>
      obtain ⟨rest, chain, -⟩ := network.linked name
      obtain rfl : name = member := by simpa [chain] using found
      rfl
  | succ index ih =>
      obtain ⟨rest, chain, last | ⟨aggregator, next⟩⟩ := network.linked name
      · simp [chain, last] at found
      · rw [chain, List.getElem?_cons_succ, next] at found
        rw [chain, List.drop_succ_cons, next]
        exact ih found

theorem chain_nodup (network : Network) (name : Nat) : (network.chain name).Nodup := by
  rw [List.nodup_iff_getElem?_ne_getElem?]
  intro first second before inside same
  have found := List.getElem?_eq_getElem inside
  have earlier := network.chain_drop (same.trans found)
  have later := network.chain_drop found
  have lengths := congrArg List.length (earlier.symm.trans later)
  simp only [List.length_drop] at lengths
  omega

def call (network : Network) (win32 : Bool) (name : Nat) (call : Call) : Network :=
  let members := network.chain name
  let after := call.run win32 (members.map network.logger)
  { network with
    logger := fun other =>
      if other ∈ members then (after[members.idxOf other]?).getD (network.logger other)
      else network.logger other }

def run (network : Network) (win32 : Bool) : List (Nat × Call) → Network
  | [] => network
  | (name, call) :: rest => (network.call win32 name call).run win32 rest

theorem call_member (network : Network) (win32 : Bool) {name index other : Nat} (made : Call)
    {after : Logger} (member : (network.chain name)[index]? = some other)
    (result : (made.run win32 ((network.chain name).map network.logger))[index]? = some after) :
    (network.call win32 name made).logger other = after := by
  obtain ⟨inside, here⟩ := List.getElem?_eq_some_iff.mp member
  have position : (network.chain name).idxOf other = index := by
    rw [← here]
    exact (network.chain_nodup name).idxOf_getElem index inside
  have listed : other ∈ network.chain name := List.mem_of_getElem? member
  simp only [call, if_pos listed, position, result, Option.getD_some]

theorem call_other (network : Network) (win32 : Bool) {name other : Nat} (made : Call)
    (unlisted : other ∉ network.chain name) :
    (network.call win32 name made).logger other = network.logger other := by
  simp only [call, if_neg unlisted]

/-- The call gets to this logger and has the level that is off. -/
def Loud (network : Network) (target : Nat) (made : Nat × Call) : Prop :=
  target ∈ network.chain made.1 ∧ made.2.AtOff

theorem call_off (network : Network) (win32 : Bool) {target : Nat}
    (off : (network.logger target).logLevel = LogLevel.off) (name : Nat) (made : Call) :
    StaysOff (network.Loud target (name, made)) (network.logger target)
      ((network.call win32 name made).logger target) := by
  by_cases listed : target ∈ network.chain name
  · obtain ⟨index, member⟩ := List.mem_iff_getElem?.mp listed
    have entry : ((network.chain name).map network.logger)[index]? =
        some (network.logger target) := by
      rw [List.getElem?_map, member, Option.map_some]
    obtain ⟨after, result, stays⟩ := made.run_off win32 entry off
    rw [network.call_member win32 made member result]
    have same : network.Loud target (name, made) ↔ made.AtOff := and_iff_right listed
    rwa [propext same]
  · rw [network.call_other win32 made listed]
    exact StaysOff.of_same off (fun loud => listed loud.1) rfl

theorem run_off (network : Network) (win32 : Bool) {target : Nat}
    (off : (network.logger target).logLevel = LogLevel.off) (calls : List (Nat × Call)) :
    StaysOff (∃ made ∈ calls, network.Loud target made) (network.logger target)
      ((network.run win32 calls).logger target) := by
  induction calls generalizing network with
  | nil => exact StaysOff.of_same off (by simp) rfl
  | cons made rest ih =>
      obtain ⟨name, made⟩ := made
      have here := network.call_off win32 off name made
      have later := ih (network.call win32 name made) here.off
      have either : (∃ other ∈ (name, made) :: rest, network.Loud target other) ↔
          network.Loud target (name, made) ∨ ∃ other ∈ rest, network.Loud target other :=
        List.exists_mem_cons_iff _ _ _
      rw [propext either]
      exact here.trans later

/-- A logger that is off and has a stream is silent over a run exactly if none of the methods
called on it, or on a logger that aggregates into it, has the level that is off. -/
theorem silent_iff (network : Network) (win32 : Bool) (target : Nat)
    (off : (network.logger target).logLevel = LogLevel.off) (calls : List (Nat × Call)) :
    ((network.run win32 calls).logger target).outputStream =
        (network.logger target).outputStream ↔
      ((network.logger target).outputStream.isSome →
        ∀ made ∈ calls, ¬ network.Loud target made) := by
  obtain ⟨-, added, quiet, grew⟩ := network.run_off win32 off calls
  rw [grew]
  cases had : (network.logger target).outputStream with
  | none => simp
  | some written => simpa using quiet

/-- One logger with an aggregator of its own, both of them off. -/
def pair : Network where
  logger _ := init (some []) LogLevel.off
  chain name := if name = 0 then [0, 1] else [name]
  linked name := by
    by_cases first : name = 0
    · subst first
      exact ⟨[1], rfl, Or.inr ⟨1, rfl⟩⟩
    · exact ⟨[], if_neg first, Or.inl rfl⟩

theorem silent_iff_pair :
    let calls := [(0, Call.say .fatal (fun _ => []) ['x']), (0, Call.insert ['y'])]
    ((pair.run true calls).logger 1).outputStream = (pair.logger 1).outputStream ↔
      ((pair.logger 1).outputStream.isSome → ∀ made ∈ calls, ¬ pair.Loud 1 made) :=
  pair.silent_iff true 1 rfl _

/-- `log(LogLevel::Off)` writes its prefix. -/
theorem off_not_silent :
    ¬ ∀ (network : Network) (win32 : Bool) (target : Nat),
      (network.logger target).logLevel = LogLevel.off → ∀ calls : List (Nat × Call),
        ((network.run win32 calls).logger target).outputStream =
          (network.logger target).outputStream := by
  intro claim
  have same := claim pair true 1 rfl [(1, .start (.log LogLevel.off) fun _ => [])]
  exact absurd same (by decide)

end Network

end LeanMiniViews.Logger
