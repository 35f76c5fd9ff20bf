import LeanMiniViews.Forwarding
import LeanMiniViews.LoggerCore

/-!
Where a record goes. Streaming to a logger forwards the prefix and every character along the same
loggers; logging a message offers it to the whole chain.
-/

namespace LeanMiniViews.Logger

open Forwarding

def admits (level : LogLevel) (logger : Logger) : Bool := level ≤ logger.logLevel

/-- What `log` does to one logger of the chain. -/
def startRecord (level : LogLevel) (timestamp : List Char) (logger : Logger) : Logger :=
  let streaming := { logger with streamLogLevel := level }
  if level ≤ logger.logLevel then streaming.write (getPrefix timestamp level) else streaming

/-- What `overflowAggregator` does to one logger of the chain. -/
def putAdmitted (level : LogLevel) (c : Char) (logger : Logger) : Logger :=
  if level ≤ logger.logLevel ∧ logger.logLevel > LogLevel.off then logger.put c else logger

@[simp] theorem write_logLevel (logger : Logger) (text : List Char) :
    (logger.write text).logLevel = logger.logLevel := rfl

theorem write_write (logger : Logger) (first second : List Char) :
    (logger.write first).write second = logger.write (first ++ second) := by
  simp [write, Function.comp_def]

@[simp] theorem write_nil (logger : Logger) : logger.write [] = logger := by
  simp [write]

@[simp] theorem admits_startRecord (level : LogLevel) (timestamp : List Char)
    (logger : Logger) : admits level (startRecord level timestamp logger) = admits level logger := by
  simp only [startRecord]
  split <;> rfl

@[simp] theorem admits_putAdmitted (level : LogLevel) (c : Char) (logger : Logger) :
    admits level (putAdmitted level c logger) = admits level logger := by
  simp only [putAdmitted]
  split <;> rfl

/-! Both functions look one logger ahead before they recurse. -/

theorem log_eq (clock : Nat → List Char) (level : LogLevel) (logger : Logger)
    (aggregators : List Logger) :
    log clock level (logger :: aggregators) =
      startRecord level (clock 0) logger ::
        forward (admits level) (fun depth => startRecord level (clock (depth + 1)))
          aggregators := by
  induction aggregators generalizing clock logger with
  | nil => rfl
  | cons aggregator rest ih =>
      rw [log, forward]
      refine congrArg (List.cons _) ?_
      by_cases admitted : level ≤ aggregator.logLevel
      · simpa [aggregatorAdmits, admits, admitted] using ih _ _
      · simp [aggregatorAdmits, admits, admitted]

theorem overflowAggregator_eq (c : Char) (level : LogLevel) (logger : Logger)
    (aggregators : List Logger) :
    overflowAggregator c level (logger :: aggregators) =
      putAdmitted level c logger ::
        forward (admits level) (fun _ => putAdmitted level c) aggregators := by
  induction aggregators generalizing logger with
  | nil => rfl
  | cons aggregator rest ih =>
      rw [overflowAggregator, forward]
      refine congrArg (List.cons _) ?_
      by_cases admitted : level ≤ aggregator.logLevel
      · simpa [aggregatorAdmits, admits, admitted] using ih _
      · simp [aggregatorAdmits, admits, admitted]

theorem overflowAggregator_forwarded (c : Char) (level : LogLevel) (aggregators : List Logger) :
    (if aggregatorAdmits level aggregators then overflowAggregator c level aggregators
      else aggregators) =
      forward (admits level) (fun _ => putAdmitted level c) aggregators := by
  cases aggregators with
  | nil => rfl
  | cons aggregator rest =>
      rw [overflowAggregator_eq, forward]
      by_cases admitted : level ≤ aggregator.logLevel
      · simp [aggregatorAdmits, admits, admitted]
      · simp [aggregatorAdmits, admits, admitted]

theorem logMessage_eq (clock : Nat → List Char) (level : LogLevel) (message : List Char)
    (chain : List Logger) :
    logMessage clock level message chain =
      broadcast (fun depth logger =>
        if level ≤ logger.logLevel then
          logger.write (getPrefix (clock depth) level ++ message ++ ['\n'])
        else logger) chain := by
  induction chain generalizing clock with
  | nil => rfl
  | cons logger aggregators ih => rw [logMessage, broadcast, ih]

/-! Characters streamed to a logger that was told the level. -/

/-- The characters that `overflow` does not skip. -/
def kept (win32 : Bool) (characters : List Char) : List Char :=
  characters.filter fun c => !(win32 && c == '\r')

theorem overflow_eq (win32 : Bool) (logger : Logger) (aggregators : List Logger) (c : Char)
    (skips : (win32 && c == '\r') = false) :
    overflow win32 (logger :: aggregators) c =
      (if logger.streamLogLevel ≤ logger.logLevel ∧ logger.streamLogLevel > LogLevel.off then
          logger.put c
        else logger) ::
        forward (admits logger.streamLogLevel)
          (fun _ => putAdmitted logger.streamLogLevel c) aggregators := by
  simp only [overflow, skips, Bool.false_eq_true, if_false, overflowAggregator_forwarded]

theorem stream_eq (win32 : Bool) {level : LogLevel} (aboveOff : level > LogLevel.off)
    (characters : List Char) (logger : Logger) (told : logger.streamLogLevel = level)
    (aggregators : List Logger) :
    stream win32 characters (logger :: aggregators) =
      (if level ≤ logger.logLevel then logger.write (kept win32 characters) else logger) ::
        (kept win32 characters).foldl
          (fun chain c => forward (admits level) (fun _ => putAdmitted level c) chain)
          aggregators := by
  induction characters generalizing logger aggregators with
  | nil => simp [stream, kept]
  | cons c rest ih =>
      rw [stream, List.foldl_cons]
      cases skips : win32 && c == '\r' with
      | true =>
          have dropped : kept win32 (c :: rest) = kept win32 rest := by
            simp only [kept, List.filter_cons, skips, Bool.not_true, Bool.false_eq_true, if_false]
          rw [dropped, ← ih logger told]
          simp [overflow, skips, stream]
      | false =>
          have same : kept win32 (c :: rest) = c :: kept win32 rest := by
            simp only [kept, List.filter_cons, skips, Bool.not_false, if_true]
          rw [overflow_eq win32 logger aggregators c skips, same, List.foldl_cons, told]
          by_cases writes : level ≤ logger.logLevel
          · have next := ih (logger.put c) told
              (forward (admits level) (fun _ => putAdmitted level c) aggregators)
            rw [if_pos ⟨writes, aboveOff⟩, if_pos writes]
            simpa [stream, put, writes, write_write] using next
          · have next := ih logger told
              (forward (admits level) (fun _ => putAdmitted level c) aggregators)
            rw [if_neg (fun both => writes both.1), if_neg writes]
            simpa [stream, writes] using next

/-! A record started with `log` and continued with `<<`. -/

@[simp] theorem startRecord_logLevel (level : LogLevel) (timestamp : List Char)
    (logger : Logger) : (startRecord level timestamp logger).logLevel = logger.logLevel := by
  simp only [startRecord]
  split <;> rfl

@[simp] theorem startRecord_streamLogLevel (level : LogLevel) (timestamp : List Char)
    (logger : Logger) : (startRecord level timestamp logger).streamLogLevel = level := by
  simp only [startRecord]
  split <;> rfl

theorem foldl_putAdmitted {level : LogLevel} (aboveOff : level > LogLevel.off)
    (characters : List Char) {logger : Logger} (admitted : level ≤ logger.logLevel) :
    characters.foldl (fun logger c => putAdmitted level c logger) logger =
      logger.write characters := by
  have loud : logger.logLevel > LogLevel.off := UInt32.lt_of_lt_of_le aboveOff admitted
  induction characters generalizing logger with
  | nil => simp
  | cons c rest ih =>
      have here : putAdmitted level c logger = logger.put c := if_pos ⟨admitted, loud⟩
      have stays : level ≤ (logger.put c).logLevel := admitted
      rw [List.foldl_cons, here, ih stays loud]
      simp [put, write_write]

/-- One logger after a whole record, if the record got to it. -/
def recorded (level : LogLevel) (timestamp characters : List Char) (logger : Logger) : Logger :=
  characters.foldl (fun logger c => putAdmitted level c logger)
    (startRecord level timestamp logger)

theorem recorded_outputStream {level : LogLevel} (aboveOff : level > LogLevel.off)
    (timestamp characters : List Char) {logger : Logger} (admitted : level ≤ logger.logLevel) :
    (recorded level timestamp characters logger).outputStream =
      logger.outputStream.map fun written =>
        written ++ (getPrefix timestamp level ++ characters) := by
  rw [recorded, foldl_putAdmitted aboveOff characters (by simpa using admitted)]
  simp [startRecord, admitted, write, Function.comp_def]

theorem stream_log_eq (win32 : Bool) (clock : Nat → List Char) {level : LogLevel}
    (aboveOff : level > LogLevel.off) (characters : List Char) (logger : Logger)
    (aggregators : List Logger) :
    stream win32 characters (log clock level (logger :: aggregators)) =
      (if level ≤ logger.logLevel then
          (startRecord level (clock 0) logger).write (kept win32 characters)
        else startRecord level (clock 0) logger) ::
        forward (admits level)
          (fun depth => recorded level (clock (depth + 1)) (kept win32 characters))
          aggregators := by
  rw [log_eq, stream_eq win32 aboveOff characters _ (startRecord_streamLogLevel _ _ _),
    startRecord_logLevel]
  refine congrArg (List.cons _) ?_
  exact forward_foldl (fun c logger => admits_putAdmitted level c logger) _
    (fun depth logger => admits_startRecord level (clock (depth + 1)) logger) aggregators

/-- The loggers that write a record of this level: the first by its own level, a later one by the
levels of all from the second up to it. -/
def StreamAdmits (level : LogLevel) (chain : List Logger) : Nat → Prop
  | 0 => ∀ first ∈ chain[0]?, level ≤ first.logLevel
  | later + 1 => ∀ earlier ≤ later, ∀ logger ∈ chain[earlier + 1]?, level ≤ logger.logLevel

theorem reaches_iff_streamAdmits (level : LogLevel) (first : Logger) (aggregators : List Logger)
    (depth : Nat) :
    Reaches (admits level) aggregators depth ↔
      StreamAdmits level (first :: aggregators) (depth + 1) := by
  simp [Reaches, StreamAdmits, admits]

theorem stream_log_outputStream (win32 : Bool) (clock : Nat → List Char) {level : LogLevel}
    (aboveOff : level > LogLevel.off) (characters : List Char) (chain : List Logger)
    (index : Nat) :
    ∀ before ∈ chain[index]?, ∃ after ∈ (stream win32 characters (log clock level chain))[index]?,
      (StreamAdmits level chain index →
        after.outputStream = before.outputStream.map fun written =>
          written ++ (getPrefix (clock index) level ++ kept win32 characters)) ∧
      (¬ StreamAdmits level chain index → after.outputStream = before.outputStream) := by
  intro before member
  cases chain with
  | nil => simp at member
  | cons first aggregators =>
      rw [stream_log_eq win32 clock aboveOff]
      cases index with
      | zero =>
          obtain rfl : first = before := by simpa using member
          refine ⟨_, rfl, ?_, ?_⟩
          · intro admitted
            have writes : level ≤ first.logLevel := admitted first rfl
            simp [writes, startRecord, write, Function.comp_def]
          · intro refused
            have silent : ¬ level ≤ first.logLevel := by
              simpa [StreamAdmits] using refused
            simp [silent, startRecord]
      | succ depth =>
          have entry : aggregators[depth]? = some before := by simpa using member
          rw [← reaches_iff_streamAdmits level first aggregators depth, List.getElem?_cons_succ,
            forward_getElem?, entry]
          refine ⟨_, rfl, ?_, ?_⟩
          · intro reaches
            have admitted := reaches depth (Nat.le_refl _) before entry
            simp only [if_pos reaches]
            exact recorded_outputStream aboveOff _ _ (by simpa [admits] using admitted)
          · intro cut
            simp only [if_neg cut]

theorem streamed_record_whole_or_nothing (win32 : Bool) (clock : Nat → List Char)
    (level : LogLevel) (aboveOff : level > LogLevel.off) (characters : List Char)
    (chain : List Logger) (index : Nat) :
    ∀ before ∈ chain[index]?, ∃ after ∈ (stream win32 characters (log clock level chain))[index]?,
      match before.outputStream with
      | none => after.outputStream = none
      | some written =>
          (StreamAdmits level chain index ∧
            after.outputStream =
              some (written ++ (getPrefix (clock index) level ++ kept win32 characters))) ∨
          (¬ StreamAdmits level chain index ∧ after.outputStream = some written) := by
  intro before member
  obtain ⟨after, found, writes, silent⟩ :=
    stream_log_outputStream win32 clock aboveOff characters chain index before member
  refine ⟨after, found, ?_⟩
  by_cases admitted : StreamAdmits level chain index
  · cases had : before.outputStream with
    | none => simp [writes admitted, had]
    | some written => exact Or.inl ⟨admitted, by rw [writes admitted, had, Option.map_some]⟩
  · cases had : before.outputStream with
    | none => simp [silent admitted, had]
    | some written => exact Or.inr ⟨admitted, by rw [silent admitted, had]⟩

/-! Both styles. -/

/-- A record with this message was added to what the logger had written. The record has more to
it than the message, which may be empty. -/
def Receives (message : List Char) (before after : Logger) : Prop :=
  ∃ written ∈ before.outputStream, ∃ lead tail, lead ≠ [] ∧
    after.outputStream = some (written ++ (lead ++ message ++ tail))

theorem getPrefix_ne_nil (timestamp : List Char) (level : LogLevel) :
    getPrefix timestamp level ≠ [] := by
  simp only [getPrefix, ne_eq, List.append_eq_nil_iff, not_and]
  intro _
  repeat' split
  all_goals simp

theorem receives_iff_of_appended {message : List Char} {before after : Logger}
    (lead tail : List Char) (leads : lead ≠ [])
    (appended : after.outputStream = before.outputStream.map fun written =>
      written ++ (lead ++ message ++ tail)) :
    Receives message before after ↔ before.outputStream.isSome := by
  constructor
  · rintro ⟨written, had, -⟩
    exact Option.isSome_iff_exists.mpr ⟨written, had⟩
  · intro some
    obtain ⟨written, had⟩ := Option.isSome_iff_exists.mp some
    exact ⟨written, had, lead, tail, leads, by rw [appended, had, Option.map_some]⟩

theorem not_receives_of_same {message : List Char} {before after : Logger}
    (same : after.outputStream = before.outputStream) : ¬ Receives message before after := by
  rintro ⟨written, had, lead, tail, leads, grew⟩
  rw [same, had] at grew
  have longer := congrArg List.length (Option.some.inj grew)
  have positive := List.length_pos_iff.mpr leads
  simp only [List.length_append] at longer
  omega

theorem receives_logMessage_iff (clock : Nat → List Char) (level : LogLevel)
    (message : List Char) (chain : List Logger) {index : Nat} {before after : Logger}
    (member : chain[index]? = some before)
    (result : (logMessage clock level message chain)[index]? = some after) :
    Receives message before after ↔
      before.outputStream.isSome ∧ level ≤ before.logLevel := by
  rw [logMessage_eq, broadcast_getElem?, member, Option.map_some, Option.some.injEq] at result
  by_cases admitted : level ≤ before.logLevel
  · rw [if_pos admitted] at result
    rw [receives_iff_of_appended (getPrefix (clock index) level) ['\n'] (getPrefix_ne_nil _ _)
      (by rw [← result]; rfl)]
    simp [admitted]
  · rw [if_neg admitted] at result
    simp [admitted, not_receives_of_same (congrArg outputStream result.symm)]

theorem receives_stream_iff (win32 : Bool) (clock : Nat → List Char) {level : LogLevel}
    (aboveOff : level > LogLevel.off) {message : List Char} (plain : '\r' ∉ message)
    (chain : List Logger) {index : Nat} {before after : Logger}
    (member : chain[index]? = some before)
    (result : (stream win32 message (log clock level chain))[index]? = some after) :
    Receives message before after ↔
      before.outputStream.isSome ∧ StreamAdmits level chain index := by
  have whole : kept win32 message = message := by
    refine List.filter_eq_self.mpr fun c used => ?_
    have other : c ≠ '\r' := fun same => plain (same ▸ used)
    simp [other]
  obtain ⟨other, found, writes, silent⟩ :=
    stream_log_outputStream win32 clock aboveOff message chain index before member
  obtain rfl : other = after := Option.some.inj (found.symm.trans result)
  by_cases admitted : StreamAdmits level chain index
  · have appended := writes admitted
    rw [whole] at appended
    rw [receives_iff_of_appended (getPrefix (clock index) level) [] (getPrefix_ne_nil _ _)
      (by rw [appended]; simp)]
    simp [admitted]
  · simp [admitted, not_receives_of_same (silent admitted)]

/-- Each logger of the chain receives the message in both styles or in neither. -/
def SameReceivers (win32 : Bool) (methodClock streamClock : Nat → List Char) (level : LogLevel)
    (message : List Char) (chain : List Logger) : Prop :=
  ∀ index : Nat, ∀ before ∈ chain[index]?,
    ∃ byMethod ∈ (logMessage methodClock level message chain)[index]?,
      ∃ byStream ∈ (stream win32 message (log streamClock level chain))[index]?,
        (Receives message before byMethod ↔ Receives message before byStream)

/-- The loggers strictly between the first and this one admit the level. -/
def BetweenAdmit (level : LogLevel) (chain : List Logger) (index : Nat) : Prop :=
  ∀ position < index, 0 < position → ∀ between ∈ chain[position]?, level ≤ between.logLevel

instance (level : LogLevel) (chain : List Logger) (index : Nat) :
    Decidable (BetweenAdmit level chain index) :=
  inferInstanceAs (Decidable (∀ position < index, 0 < position →
    ∀ between ∈ chain[position]?, level ≤ between.logLevel))

/-- No logger that would write the level is behind one, other than the first, that would not. -/
def NoneCutOff (level : LogLevel) (chain : List Logger) : Prop :=
  ∀ index : Nat, ∀ logger ∈ chain[index]?,
    logger.outputStream.isSome → level ≤ logger.logLevel → BetweenAdmit level chain index

instance (level : LogLevel) (chain : List Logger) : Decidable (NoneCutOff level chain) :=
  decidable_of_iff
    (∀ index < chain.length, ∀ logger ∈ chain[index]?,
      logger.outputStream.isSome → level ≤ logger.logLevel → BetweenAdmit level chain index)
    ⟨fun inside index logger member =>
      inside index (List.getElem?_eq_some_iff.mp member).1 logger member,
    fun all index _ => all index⟩

theorem streamAdmits_iff (level : LogLevel) {chain : List Logger} {index : Nat}
    {logger : Logger} (member : chain[index]? = some logger) :
    StreamAdmits level chain index ↔
      level ≤ logger.logLevel ∧ BetweenAdmit level chain index := by
  cases index with
  | zero => simp [StreamAdmits, BetweenAdmit, member]
  | succ later =>
      constructor
      · intro admitted
        refine ⟨admitted later (Nat.le_refl _) logger member, ?_⟩
        intro position below positive between found
        refine admitted (position - 1) (by omega) between ?_
        rwa [Nat.sub_add_cancel positive]
      · rintro ⟨own, earlier⟩ position bound between found
        by_cases last : position = later
        · subst last
          obtain rfl : logger = between := Option.some.inj (member.symm.trans found)
          exact own
        · exact earlier (position + 1) (by omega) (by omega) between found

theorem sameReceivers_at (win32 : Bool) (methodClock streamClock : Nat → List Char)
    {level : LogLevel} (aboveOff : level > LogLevel.off) {message : List Char}
    (plain : '\r' ∉ message) (chain : List Logger) {index : Nat} {before : Logger}
    (member : chain[index]? = some before) :
    (∃ byMethod ∈ (logMessage methodClock level message chain)[index]?,
      ∃ byStream ∈ (stream win32 message (log streamClock level chain))[index]?,
        (Receives message before byMethod ↔ Receives message before byStream)) ↔
      (before.outputStream.isSome → level ≤ before.logLevel →
        StreamAdmits level chain index) := by
  have implied : StreamAdmits level chain index → level ≤ before.logLevel :=
    fun admitted => ((streamAdmits_iff level member).mp admitted).1
  constructor
  · rintro ⟨byMethod, logged, byStream, streamed, same⟩ writes own
    rw [receives_logMessage_iff _ _ _ _ member logged,
      receives_stream_iff _ _ aboveOff plain _ member streamed] at same
    exact (same.mp ⟨writes, own⟩).2
  · intro reached
    obtain ⟨byStream, streamed, -⟩ :=
      stream_log_outputStream win32 streamClock aboveOff message chain index before member
    obtain ⟨byMethod, logged⟩ : ∃ byMethod,
        (logMessage methodClock level message chain)[index]? = some byMethod := by
      rw [logMessage_eq, broadcast_getElem?, member]
      exact ⟨_, rfl⟩
    refine ⟨byMethod, logged, byStream, streamed, ?_⟩
    rw [receives_logMessage_iff _ _ _ _ member logged,
      receives_stream_iff _ _ aboveOff plain _ member streamed]
    constructor
    · exact fun ⟨writes, own⟩ => ⟨writes, reached writes own⟩
    · exact fun ⟨writes, admitted⟩ => ⟨writes, implied admitted⟩

theorem sameReceivers_iff_noneCutOff (win32 : Bool) (methodClock streamClock : Nat → List Char)
    (level : LogLevel) (aboveOff : level > LogLevel.off) (message : List Char)
    (plain : '\r' ∉ message) (chain : List Logger) :
    SameReceivers win32 methodClock streamClock level message chain ↔
      NoneCutOff level chain := by
  refine forall_congr' fun index => forall_congr' fun before => forall_congr' fun member => ?_
  rw [sameReceivers_at win32 methodClock streamClock aboveOff plain chain member,
    streamAdmits_iff level member]
  constructor
  · exact fun reached writes own => (reached writes own).2
  · exact fun noneBefore writes own => ⟨own, noneBefore writes own⟩

theorem sameReceivers_through_fatal :
    SameReceivers true (fun _ => []) (fun _ => []) LogLevel.fatal ['x']
      [init (some []) LogLevel.off, init (some []) LogLevel.all, init none LogLevel.all] :=
  (sameReceivers_iff_noneCutOff true _ _ LogLevel.fatal (by decide) ['x'] (by decide) _).mpr
    (by decide)

/-- An aggregator that is off keeps what is streamed from its own aggregator. -/
theorem not_sameReceivers_past_silent :
    ¬ ∀ (win32 : Bool) (methodClock streamClock : Nat → List Char) (level : LogLevel)
      (message : List Char) (chain : List Logger), level > LogLevel.off → '\r' ∉ message →
        SameReceivers win32 methodClock streamClock level message chain := by
  intro same
  let silent := [init (some []) LogLevel.all, init (some []) LogLevel.off,
    init (some []) LogLevel.all]
  have third := same true (fun _ => []) (fun _ => []) LogLevel.fatal ['x'] silent (by decide)
    (by decide) 2 (init (some []) LogLevel.all) rfl
  rw [sameReceivers_at true _ _ (by decide) (by decide) silent rfl] at third
  have admitted := third rfl (by decide)
  exact absurd (admitted 0 (by omega) _ rfl) (by decide)

end LeanMiniViews.Logger
