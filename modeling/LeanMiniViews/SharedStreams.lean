import Mathlib.Algebra.GroupWithZero.Nat
import LeanMiniViews.LoggerStreams

/-!
What each stream receives of a record: the prefixes of all loggers that write the record to it,
the one furthest down the chain first, and then each character once for every such logger.
-/

namespace LeanMiniViews

namespace StreamLogger

open Logger (getPrefix kept)

variable {Stream : Type}

/-! The loggers that write a record. -/

/-- The first logger writes by its own level, a later one by the levels of all from the second up
to it. -/
def Writes (level : LogLevel) (chain : List (StreamLogger Stream)) : Nat → Prop
  | 0 => ∀ first ∈ chain[0]?, level ≤ first.logLevel
  | later + 1 => ∀ earlier ≤ later, ∀ logger ∈ chain[earlier + 1]?, level ≤ logger.logLevel

/-- The aggregators a record gets to, from this depth on, with their streams. -/
def passed (level : LogLevel) : Nat → List (StreamLogger Stream) → List (Nat × Option Stream)
  | _, [] => []
  | depth, logger :: aggregators =>
      if level ≤ logger.logLevel then
        (depth, logger.outputStream) :: passed level (depth + 1) aggregators
      else []

def writers (level : LogLevel) : List (StreamLogger Stream) → List (Nat × Option Stream)
  | [] => []
  | logger :: aggregators =>
      (if level ≤ logger.logLevel then [(0, logger.outputStream)] else []) ++
        passed level 1 aggregators

theorem mem_passed (level : LogLevel) (depth : Nat) (aggregators : List (StreamLogger Stream))
    (index : Nat) (outputStream : Option Stream) :
    (index, outputStream) ∈ passed level depth aggregators ↔
      ∃ position, index = depth + position ∧
        ∃ logger ∈ aggregators[position]?, logger.outputStream = outputStream ∧
          ∀ earlier ≤ position, ∀ other ∈ aggregators[earlier]?, level ≤ other.logLevel := by
  induction aggregators generalizing depth with
  | nil => simp [passed]
  | cons aggregator rest ih =>
      by_cases admitted : level ≤ aggregator.logLevel
      · rw [passed, if_pos admitted, List.mem_cons, ih]
        constructor
        · rintro (here | ⟨position, rfl, logger, found, own, all⟩)
          · obtain ⟨rfl, rfl⟩ := Prod.mk.inj here
            refine ⟨0, rfl, aggregator, rfl, rfl, ?_⟩
            intro earlier bound other member
            obtain rfl : earlier = 0 := by omega
            obtain rfl : aggregator = other := by simpa using member
            exact admitted
          · refine ⟨position + 1, by omega, logger, by simpa using found, own, ?_⟩
            intro earlier bound other member
            cases earlier with
            | zero =>
                obtain rfl : aggregator = other := by simpa using member
                exact admitted
            | succ before => exact all before (by omega) other (by simpa using member)
        · rintro ⟨position, rfl, logger, found, own, all⟩
          cases position with
          | zero =>
              obtain rfl : aggregator = logger := by simpa using found
              exact Or.inl (by rw [own, Nat.add_zero])
          | succ later =>
              refine Or.inr ⟨later, by omega, logger, by simpa using found, own, ?_⟩
              intro earlier bound other member
              exact all (earlier + 1) (by omega) other (by simpa using member)
      · rw [passed, if_neg admitted]
        simp only [List.not_mem_nil, false_iff]
        rintro ⟨position, -, logger, -, -, all⟩
        exact admitted (all 0 (Nat.zero_le position) aggregator rfl)

theorem mem_writers (level : LogLevel) (chain : List (StreamLogger Stream)) (index : Nat)
    (outputStream : Option Stream) :
    (index, outputStream) ∈ writers level chain ↔
      ∃ logger ∈ chain[index]?, logger.outputStream = outputStream ∧ Writes level chain index := by
  cases chain with
  | nil => simp [writers]
  | cons first aggregators =>
      rw [writers, List.mem_append, mem_passed]
      cases index with
      | zero =>
          have notLater (position : Nat) : ¬ 0 = 1 + position := by omega
          by_cases writes : level ≤ first.logLevel
          · simp [writes, notLater, Writes, eq_comm]
          · simp [writes, notLater, Writes]
      | succ later =>
          have own : (later + 1, outputStream) ∉
              (if level ≤ first.logLevel then [(0, first.outputStream)] else []) := by
            split <;> simp
          simp only [own, false_or, Writes, List.getElem?_cons_succ]
          constructor
          · rintro ⟨position, same, found⟩
            obtain rfl : later = position := by omega
            exact found
          · exact fun found => ⟨later, by omega, found⟩

theorem writers_sorted (level : LogLevel) (chain : List (StreamLogger Stream)) :
    (writers level chain).Pairwise fun first second => first.1 < second.1 := by
  have sorted (depth : Nat) (aggregators : List (StreamLogger Stream)) :
      (passed level depth aggregators).Pairwise fun first second => first.1 < second.1 := by
    induction aggregators generalizing depth with
    | nil => exact List.Pairwise.nil
    | cons aggregator rest ih =>
        rw [passed]
        split
        · refine List.pairwise_cons.mpr ⟨?_, ih (depth + 1)⟩
          rintro ⟨index, outputStream⟩ member
          obtain ⟨position, rfl, -⟩ := (mem_passed level _ rest index outputStream).mp member
          exact (by omega : depth < depth + 1 + position)
        · exact List.Pairwise.nil
  cases chain with
  | nil => exact List.Pairwise.nil
  | cons first aggregators =>
      rw [writers]
      split
      · refine List.pairwise_cons.mpr ⟨?_, sorted 1 aggregators⟩
        rintro ⟨index, outputStream⟩ member
        obtain ⟨position, rfl, -⟩ :=
          (mem_passed level 1 aggregators index outputStream).mp member
        exact (by omega : 0 < 1 + position)
      · exact sorted 1 aggregators

/-- The same logger with what is in its stream, where it shares it with no other. -/
def alone (contents : Stream → List Char) (logger : StreamLogger Stream) : Logger :=
  ⟨logger.logLevel, logger.streamLogLevel, logger.outputStream.map contents⟩

theorem writes_iff_streamAdmits (level : LogLevel) (chain : List (StreamLogger Stream))
    (contents : Stream → List Char) (index : Nat) :
    Writes level chain index ↔ Logger.StreamAdmits level (chain.map (alone contents)) index := by
  cases index with
  | zero => simp [Writes, Logger.StreamAdmits, alone]
  | succ later => simp [Writes, Logger.StreamAdmits, alone]

variable [DecidableEq Stream]

/-! Texts put into streams one after the other. -/

def writeAll (texts : List (Option Stream × List Char)) (contents : Stream → List Char) :
    Stream → List Char :=
  texts.foldl (fun current text => write text.1 text.2 current) contents

@[simp] theorem writeAll_nil (contents : Stream → List Char) : writeAll [] contents = contents :=
  rfl

@[simp] theorem writeAll_cons (text : Option Stream × List Char)
    (texts : List (Option Stream × List Char)) (contents : Stream → List Char) :
    writeAll (text :: texts) contents = writeAll texts (write text.1 text.2 contents) := rfl

theorem writeAll_append (first second : List (Option Stream × List Char))
    (contents : Stream → List Char) :
    writeAll (first ++ second) contents = writeAll second (writeAll first contents) :=
  List.foldl_append

theorem write_apply (outputStream : Option Stream) (text : List Char)
    (contents : Stream → List Char) (stream : Stream) :
    write outputStream text contents stream =
      contents stream ++ if outputStream = some stream then text else [] := by
  cases outputStream with
  | none => simp [write]
  | some other =>
      by_cases same : other = stream
      · subst same
        simp [write]
      · simp [write, same, Function.update_of_ne (Ne.symm same)]

theorem writeAll_apply (texts : List (Option Stream × List Char))
    (contents : Stream → List Char) (stream : Stream) :
    writeAll texts contents stream =
      contents stream ++
        (texts.filter fun text => text.1 = some stream).flatMap fun text => text.2 := by
  induction texts generalizing contents with
  | nil => simp
  | cons text rest ih =>
      rw [writeAll_cons, ih, write_apply, List.append_assoc]
      refine congrArg (contents stream ++ ·) ?_
      by_cases same : text.1 = some stream
      · rw [if_pos same, List.filter_cons_of_pos (by simpa using same), List.flatMap_cons]
      · rw [if_neg same, List.filter_cons_of_neg (by simpa using same), List.nil_append]

/-! The texts of a record. -/

def prefixes (clock : Nat → List Char) (level : LogLevel)
    (writing : List (Nat × Option Stream)) : List (Option Stream × List Char) :=
  writing.reverse.map fun writer => (writer.2, getPrefix (clock writer.1) level)

def characterOf (c : Char) (writing : List (Nat × Option Stream)) :
    List (Option Stream × List Char) :=
  writing.map fun writer => (writer.2, [c])

theorem log_forwarded (clock : Nat → List Char) (level : LogLevel) (depth : Nat)
    (aggregators : List (StreamLogger Stream)) (contents : Stream → List Char) :
    (if aggregatorAdmits level aggregators then log clock level depth aggregators contents
      else (aggregators, contents)).2 =
      writeAll (prefixes clock level (passed level depth aggregators)) contents := by
  induction aggregators generalizing depth with
  | nil => rfl
  | cons aggregator rest ih =>
      by_cases admitted : level ≤ aggregator.logLevel
      · have later := ih (depth + 1)
        simp only [aggregatorAdmits, admitted, decide_true, if_true, log, passed, prefixes,
          List.reverse_cons, List.map_append, writeAll_append] at later ⊢
        rw [later]
        rfl
      · simp [aggregatorAdmits, admitted, passed, prefixes]

theorem log_told (clock : Nat → List Char) (level : LogLevel) (depth index : Nat)
    (aggregators : List (StreamLogger Stream)) (contents : Stream → List Char) :
    passed level index (if aggregatorAdmits level aggregators then
        log clock level depth aggregators contents else (aggregators, contents)).1 =
      passed level index aggregators := by
  induction aggregators generalizing depth index with
  | nil => rfl
  | cons aggregator rest ih =>
      by_cases admitted : level ≤ aggregator.logLevel
      · have later := ih (depth + 1) (index + 1)
        rw [if_pos (by simpa [aggregatorAdmits] using admitted), log, passed, passed]
        exact if_congr Iff.rfl (congrArg (List.cons _) later) rfl
      · rw [if_neg (by simpa [aggregatorAdmits] using admitted)]

theorem log_eq (clock : Nat → List Char) (level : LogLevel) (logger : StreamLogger Stream)
    (aggregators : List (StreamLogger Stream)) (contents : Stream → List Char) :
    ∃ told, log clock level 0 (logger :: aggregators) contents =
        ({ logger with streamLogLevel := level } :: told,
          writeAll (prefixes clock level (writers level (logger :: aggregators))) contents) ∧
      ∀ index, passed level index told = passed level index aggregators := by
  refine ⟨_, Prod.ext rfl ?_, fun index => log_told clock level 1 index aggregators contents⟩
  have forwarded := log_forwarded clock level 1 aggregators contents
  simp only [log, Nat.zero_add]
  rw [forwarded]
  by_cases writes : level ≤ logger.logLevel
  · simp [writes, writers, prefixes, writeAll_append]
  · simp [writes, writers, prefixes]

theorem overflowAggregator_forwarded (c : Char) {level : LogLevel} (aboveOff : level > LogLevel.off)
    (depth : Nat) (aggregators : List (StreamLogger Stream)) (contents : Stream → List Char) :
    (if aggregatorAdmits level aggregators then overflowAggregator c level aggregators contents
      else contents) = writeAll (characterOf c (passed level depth aggregators)) contents := by
  induction aggregators generalizing depth contents with
  | nil => rfl
  | cons aggregator rest ih =>
      by_cases admitted : level ≤ aggregator.logLevel
      · have loud : aggregator.logLevel > LogLevel.off := UInt32.lt_of_lt_of_le aboveOff admitted
        simp only [aggregatorAdmits, admitted, decide_true, if_true, overflowAggregator, loud,
          and_self, passed, characterOf, List.map_cons, writeAll_cons]
        exact ih (depth + 1) _
      · simp [aggregatorAdmits, admitted, passed, characterOf]

theorem overflow_eq (win32 : Bool) {level : LogLevel} (aboveOff : level > LogLevel.off)
    {logger : StreamLogger Stream} (told : logger.streamLogLevel = level)
    (aggregators : List (StreamLogger Stream)) (contents : Stream → List Char) (c : Char) :
    overflow win32 (logger :: aggregators) contents c =
      if win32 && c == '\r' then contents
      else writeAll (characterOf c (writers level (logger :: aggregators))) contents := by
  simp only [overflow, told, aboveOff, and_true,
    overflowAggregator_forwarded c aboveOff 1 aggregators]
  refine if_congr Iff.rfl rfl ?_
  by_cases writes : level ≤ logger.logLevel
  · simp [writes, writers, characterOf]
  · simp [writes, writers, characterOf]

theorem foldl_overflow (win32 : Bool) {level : LogLevel} (aboveOff : level > LogLevel.off)
    {logger : StreamLogger Stream} (told : logger.streamLogLevel = level)
    (aggregators : List (StreamLogger Stream)) (characters : List Char)
    (contents : Stream → List Char) :
    characters.foldl (overflow win32 (logger :: aggregators)) contents =
      writeAll ((kept win32 characters).flatMap fun c =>
        characterOf c (writers level (logger :: aggregators))) contents := by
  induction characters generalizing contents with
  | nil => rfl
  | cons c rest ih =>
      rw [List.foldl_cons, ih, overflow_eq win32 aboveOff told]
      cases skips : win32 && c == '\r' with
      | true =>
          have dropped : kept win32 (c :: rest) = kept win32 rest := by
            simp only [kept, List.filter_cons, skips, Bool.not_true, Bool.false_eq_true, if_false]
          rw [dropped]
          rfl
      | false =>
          have same : kept win32 (c :: rest) = c :: kept win32 rest := by
            simp only [kept, List.filter_cons, skips, Bool.not_false, if_true]
          rw [same, List.flatMap_cons, writeAll_append]
          rfl

/-- The prefixes of all that write the record come before its first character. -/
theorem record_eq (win32 : Bool) (clock : Nat → List Char) {level : LogLevel}
    (aboveOff : level > LogLevel.off) (characters : List Char)
    (chain : List (StreamLogger Stream)) (contents : Stream → List Char) :
    record win32 clock level characters chain contents =
      writeAll (prefixes clock level (writers level chain) ++
        (kept win32 characters).flatMap fun c => characterOf c (writers level chain)) contents := by
  cases chain with
  | nil =>
      have silent : characters.foldl (overflow win32 []) contents = contents :=
        List.foldl_fixed' (fun _ => rfl) characters
      have none : ((kept win32 characters).flatMap fun c =>
          characterOf c (writers level ([] : List (StreamLogger Stream)))) = [] :=
        List.flatMap_eq_nil_iff.mpr fun _ _ => rfl
      rw [none]
      exact silent
  | cons logger aggregators =>
      obtain ⟨told, logged, passes⟩ := log_eq clock level logger aggregators contents
      have same : writers level ({ logger with streamLogLevel := level } :: told) =
          writers level (logger :: aggregators) := by
        simp only [writers, passes]
      rw [record, logged, writeAll_append, ← same]
      exact foldl_overflow win32 aboveOff rfl told characters _

/-! What one stream receives. -/

def writersTo (level : LogLevel) (chain : List (StreamLogger Stream)) (stream : Stream) :
    List (Nat × Option Stream) :=
  (writers level chain).filter fun writer => writer.2 = some stream

theorem record_apply (win32 : Bool) (clock : Nat → List Char) {level : LogLevel}
    (aboveOff : level > LogLevel.off) (characters : List Char)
    (chain : List (StreamLogger Stream)) (contents : Stream → List Char) (stream : Stream) :
    record win32 clock level characters chain contents stream =
      contents stream ++
        (((writersTo level chain stream).reverse.flatMap fun writer =>
            getPrefix (clock writer.1) level) ++
          (kept win32 characters).flatMap fun c =>
            (writersTo level chain stream).map fun _ => c) := by
  have starts : ((prefixes clock level (writers level chain)).filter
      fun text => text.1 = some stream).flatMap (fun text => text.2) =
      (writersTo level chain stream).reverse.flatMap fun writer =>
        getPrefix (clock writer.1) level := by
    rw [prefixes, List.filter_map, List.flatMap_map, writersTo, ← List.filter_reverse]
    rfl
  have follows (c : Char) : ((characterOf c (writers level chain)).filter
      fun text => text.1 = some stream).flatMap (fun text => text.2) =
      (writersTo level chain stream).map fun _ => c := by
    rw [characterOf, List.filter_map, List.flatMap_map, writersTo, ← List.flatMap_pure_eq_map]
    rfl
  rw [record_eq win32 clock aboveOff, writeAll_apply, List.filter_append, List.flatMap_append,
    starts, List.filter_flatMap, List.flatMap_assoc]
  simp only [follows]

/-! Streams that get a record as a whole. -/

/-- The stream has received nothing, and no logger that writes to it writes the record, or
exactly the prefix of one that does and the characters. -/
def WholeOrNothing (win32 : Bool) (clock : Nat → List Char) (level : LogLevel)
    (characters : List Char) (chain : List (StreamLogger Stream))
    (contents : Stream → List Char) (stream : Stream) : Prop :=
  (∃ index, ∃ logger ∈ chain[index]?, logger.outputStream = some stream ∧
    Writes level chain index ∧
    record win32 clock level characters chain contents stream =
      contents stream ++ (getPrefix (clock index) level ++ kept win32 characters)) ∨
  ((∀ index, ∀ logger ∈ chain[index]?, logger.outputStream = some stream →
      ¬ Writes level chain index) ∧
    record win32 clock level characters chain contents stream = contents stream)

/-- No two loggers that write the record write it to the same stream. -/
def WriteApart (level : LogLevel) (chain : List (StreamLogger Stream)) : Prop :=
  ∀ index other : Nat, ∀ logger ∈ chain[index]?, ∀ second ∈ chain[other]?,
    Writes level chain index → Writes level chain other →
      ∀ stream, logger.outputStream = some stream → second.outputStream = some stream →
        index = other

theorem mem_writersTo (level : LogLevel) (chain : List (StreamLogger Stream)) (stream : Stream)
    (writer : Nat × Option Stream) :
    writer ∈ writersTo level chain stream ↔
      ∃ logger ∈ chain[writer.1]?, logger.outputStream = some stream ∧
        writer.2 = some stream ∧ Writes level chain writer.1 := by
  obtain ⟨index, outputStream⟩ := writer
  rw [writersTo, List.mem_filter, mem_writers]
  constructor
  · rintro ⟨⟨logger, found, rfl, writes⟩, same⟩
    have own : logger.outputStream = some stream := by simpa using same
    exact ⟨logger, found, own, own, writes⟩
  · rintro ⟨logger, found, own, rfl, writes⟩
    exact ⟨⟨logger, found, own, writes⟩, by simp⟩

theorem writeApart_iff (level : LogLevel) (chain : List (StreamLogger Stream)) :
    WriteApart level chain ↔ ∀ stream, (writersTo level chain stream).length ≤ 1 := by
  constructor
  · intro apart stream
    have sorted : (writersTo level chain stream).Pairwise fun first second => first.1 < second.1 :=
      (writers_sorted level chain).filter _
    rcases writing : writersTo level chain stream with _ | ⟨first, _ | ⟨second, rest⟩⟩
    · simp
    · simp
    · have one := (mem_writersTo level chain stream first).mp (by simp [writing])
      have two := (mem_writersTo level chain stream second).mp (by simp [writing])
      obtain ⟨logger, found, own, -, writes⟩ := one
      obtain ⟨other, foundOther, ownOther, -, writesOther⟩ := two
      have same := apart _ _ logger found other foundOther writes writesOther stream own ownOther
      rw [writing, List.pairwise_cons] at sorted
      have before := sorted.1 second List.mem_cons_self
      omega
  · intro single index other logger found second foundSecond writes writesSecond stream own
      ownSecond
    have one : (index, some stream) ∈ writersTo level chain stream :=
      (mem_writersTo level chain stream _).mpr ⟨logger, found, own, rfl, writes⟩
    have two : (other, some stream) ∈ writersTo level chain stream :=
      (mem_writersTo level chain stream _).mpr ⟨second, foundSecond, ownSecond, rfl, writesSecond⟩
    rcases writing : writersTo level chain stream with _ | ⟨writer, _ | ⟨third, rest⟩⟩
    · rw [writing] at one
      cases one
    · rw [writing, List.mem_singleton] at one two
      exact congrArg Prod.fst (one.trans two.symm)
    · have short := single stream
      rw [writing] at short
      simp at short

theorem lt_sum_of_mem {lengths : List Nat} (positive : ∀ length ∈ lengths, 0 < length)
    (several : 1 < lengths.length) {length : Nat} (member : length ∈ lengths) :
    length < lengths.sum := by
  obtain ⟨first, second, rfl⟩ := List.append_of_mem member
  have others : 0 < (first ++ second).sum := by
    rw [List.length_append, List.length_cons] at several
    have nonempty : first ++ second ≠ [] := by
      rw [← List.length_pos_iff, List.length_append]
      omega
    obtain ⟨other, among⟩ := List.exists_mem_of_ne_nil _ nonempty
    refine List.sum_pos_iff_exists_pos_nat.mpr ⟨other, among, positive other ?_⟩
    rcases List.mem_append.mp among with before | after
    · exact List.mem_append_left _ before
    · exact List.mem_append_right _ (List.mem_cons_of_mem _ after)
  rw [List.sum_append_nat] at others
  rw [List.sum_append_nat, List.sum_cons]
  omega

/-- Where two loggers write the record to a stream it gets more than one prefix. -/
theorem record_longer (win32 : Bool) (clock : Nat → List Char) {level : LogLevel}
    (aboveOff : level > LogLevel.off) (characters : List Char)
    (chain : List (StreamLogger Stream)) (contents : Stream → List Char) {stream : Stream}
    (several : 1 < (writersTo level chain stream).length) {writer : Nat × Option Stream}
    (member : writer ∈ writersTo level chain stream) :
    (contents stream ++ (getPrefix (clock writer.1) level ++ kept win32 characters)).length <
      (record win32 clock level characters chain contents stream).length := by
  have starts : (getPrefix (clock writer.1) level).length <
      ((writersTo level chain stream).reverse.map fun other =>
        (getPrefix (clock other.1) level).length).sum := by
    apply lt_sum_of_mem
    · intro length among
      obtain ⟨other, -, rfl⟩ := List.mem_map.mp among
      exact List.length_pos_of_ne_nil (Logger.getPrefix_ne_nil _ _)
    · simpa using several
    · exact List.mem_map.mpr ⟨writer, List.mem_reverse.mpr member, rfl⟩
  have follows : (kept win32 characters).length ≤
      ((kept win32 characters).map fun _ => (writersTo level chain stream).length).sum := by
    rw [List.map_const', List.sum_replicate_nat]
    exact Nat.le_mul_of_pos_right _ (by omega)
  rw [record_apply win32 clock aboveOff]
  simp only [List.length_append, List.length_flatMap, List.length_map]
  omega

theorem wholeOrNothing_iff (win32 : Bool) (clock : Nat → List Char) {level : LogLevel}
    (aboveOff : level > LogLevel.off) (characters : List Char)
    (chain : List (StreamLogger Stream)) (contents : Stream → List Char) (stream : Stream) :
    WholeOrNothing win32 clock level characters chain contents stream ↔
      (writersTo level chain stream).length ≤ 1 := by
  constructor
  · rintro (⟨index, logger, found, own, writes, received⟩ | ⟨silent, -⟩)
    · by_contra several
      have member : (index, some stream) ∈ writersTo level chain stream :=
        (mem_writersTo level chain stream _).mpr ⟨logger, found, own, rfl, writes⟩
      have longer := record_longer win32 clock aboveOff characters chain contents
        (Nat.not_le.mp several) member
      rw [received] at longer
      exact absurd longer (Nat.lt_irrefl _)
    · have none : writersTo level chain stream = [] := by
        refine List.eq_nil_iff_forall_not_mem.mpr fun writer member => ?_
        obtain ⟨logger, found, own, -, writes⟩ :=
          (mem_writersTo level chain stream writer).mp member
        exact silent writer.1 logger found own writes
      simp [none]
  · intro single
    have received := record_apply win32 clock aboveOff characters chain contents stream
    rcases writing : writersTo level chain stream with _ | ⟨writer, _ | ⟨second, rest⟩⟩
    · have nothing : ((kept win32 characters).flatMap fun _ => ([] : List Char)) = [] :=
        List.flatMap_eq_nil_iff.mpr fun _ _ => rfl
      refine Or.inr ⟨?_, by simpa [writing, nothing] using received⟩
      intro index logger found own writes
      have member : (index, some stream) ∈ writersTo level chain stream :=
        (mem_writersTo level chain stream _).mpr ⟨logger, found, own, rfl, writes⟩
      rw [writing] at member
      cases member
    · obtain ⟨logger, found, own, -, writes⟩ :=
        (mem_writersTo level chain stream writer).mp (by simp [writing])
      exact Or.inl ⟨writer.1, logger, found, own, writes, by simpa [writing] using received⟩
    · simp [writing] at single

/-- Each stream gets the record as a whole or nothing of it exactly if no two loggers that write
the record share a stream. -/
theorem streamed_record_whole_iff (win32 : Bool) (clock : Nat → List Char) (level : LogLevel)
    (aboveOff : level > LogLevel.off) (characters : List Char)
    (chain : List (StreamLogger Stream)) (contents : Stream → List Char) :
    (∀ stream, WholeOrNothing win32 clock level characters chain contents stream) ↔
      WriteApart level chain := by
  rw [writeApart_iff]
  exact forall_congr' fun stream =>
    wholeOrNothing_iff win32 clock aboveOff characters chain contents stream

theorem streamed_record_whole_onWindows :
    let chain := [init (some true) LogLevel.off, init (some false) LogLevel.all]
    let whole := WholeOrNothing true (fun _ => []) LogLevel.fatal ['a', '\r', 'b'] chain fun _ => []
    whole true ∧ whole false := by
  have whole := (streamed_record_whole_iff true (fun _ => []) LogLevel.fatal (by decide)
    ['a', '\r', 'b'] [init (some true) LogLevel.off, init (some false) LogLevel.all]
    (fun _ => [])).mpr ((writeApart_iff _ _).mpr (by decide))
  exact ⟨whole true, whole false⟩

/-- Two loggers that were given no stream both write to `std::cout`. -/
def defaultStreams : List (StreamLogger Unit) :=
  [init (some ()) LogLevel.info, init (some ()) LogLevel.info]

example : record true (fun _ => ['T']) LogLevel.fatal ['a', 'b'] defaultStreams (fun _ => []) () =
    "T FATAL: T FATAL: aabb".toList := by
  decide

theorem streamed_record_mixed_defaultStreams :
    ¬ ∀ (Stream : Type) (_ : DecidableEq Stream) (win32 : Bool) (clock : Nat → List Char)
      (level : LogLevel) (characters : List Char) (chain : List (StreamLogger Stream))
      (contents : Stream → List Char), level > LogLevel.off →
        ∀ stream, WholeOrNothing win32 clock level characters chain contents stream := by
  intro claim
  have whole := claim Unit inferInstance true (fun _ => ['T']) LogLevel.fatal ['a', 'b']
    defaultStreams (fun _ => []) (by decide) ()
  rw [wholeOrNothing_iff _ _ (by decide)] at whole
  exact absurd whole (by decide)

/-! Loggers with streams of their own. -/

/-- Where no two loggers share a stream, a stream holds what its logger alone put into it. -/
theorem record_eq_alone (win32 : Bool) (clock : Nat → List Char) {level : LogLevel}
    (aboveOff : level > LogLevel.off) (characters : List Char)
    (chain : List (StreamLogger Stream)) (contents : Stream → List Char)
    (own : ∀ index other : Nat, ∀ logger ∈ chain[index]?, ∀ second ∈ chain[other]?, ∀ stream,
      logger.outputStream = some stream → second.outputStream = some stream → index = other)
    {index : Nat} {logger : StreamLogger Stream} (found : chain[index]? = some logger)
    {stream : Stream} (writesTo : logger.outputStream = some stream) :
    ∃ after ∈ (Logger.stream win32 characters
        (Logger.log clock level (chain.map (alone contents))))[index]?,
      after.outputStream = some (record win32 clock level characters chain contents stream) := by
  have apart : WriteApart level chain :=
    fun index other logger found second foundSecond _ _ =>
      own index other logger found second foundSecond
  have whole := (wholeOrNothing_iff win32 clock aboveOff characters chain contents stream).mpr
    ((writeApart_iff level chain).mp apart stream)
  obtain ⟨after, reached, outcome⟩ := Logger.streamed_record_whole_or_nothing win32 clock level
    aboveOff characters (chain.map (alone contents)) index (alone contents logger) (by simp [found])
  refine ⟨after, reached, ?_⟩
  rw [alone, writesTo, Option.map_some] at outcome
  rcases whole with ⟨other, second, foundSecond, shares, writes, received⟩ | ⟨silent, received⟩
  · obtain rfl := own index other logger found second foundSecond stream writesTo shares
    rw [received]
    rcases outcome with ⟨-, written⟩ | ⟨refused, -⟩
    · exact written
    · exact absurd ((writes_iff_streamAdmits level chain contents index).mp writes) refused
  · rw [received]
    rcases outcome with ⟨admitted, -⟩ | ⟨-, same⟩
    · have writes := (writes_iff_streamAdmits level chain contents index).mpr admitted
      exact absurd writes (silent index logger found writesTo)
    · exact same

end StreamLogger

end LeanMiniViews
