import LeanMiniViews.LoggerRouting
import Mathlib.Logic.Function.Basic

/-!
Loggers that share streams. A logger holds a pointer to its stream, which is `std::cout` unless it
is given another one, so the order of all writes to a stream shows.
-/

namespace LeanMiniViews

structure StreamLogger (Stream : Type) where
  logLevel : LogLevel
  streamLogLevel : LogLevel
  outputStream : Option Stream
deriving DecidableEq, Repr

namespace StreamLogger

open Logger (getPrefix kept)

variable {Stream : Type}

def init (outputStream : Option Stream) (logLevel : LogLevel) : StreamLogger Stream :=
  ⟨logLevel, logLevel, outputStream⟩

def aggregatorAdmits (level : LogLevel) : List (StreamLogger Stream) → Bool
  | [] => false
  | aggregator :: _ => level ≤ aggregator.logLevel

variable [DecidableEq Stream]

def write (outputStream : Option Stream) (text : List Char) (contents : Stream → List Char) :
    Stream → List Char :=
  match outputStream with
  | none => contents
  | some stream => Function.update contents stream (contents stream ++ text)

/-- `clock` gives the time at which the logger at this depth of the chain asks for it. The
aggregator writes its prefix first. -/
def log (clock : Nat → List Char) (level : LogLevel) :
    Nat → List (StreamLogger Stream) → (Stream → List Char) →
      List (StreamLogger Stream) × (Stream → List Char)
  | _, [], contents => ([], contents)
  | depth, logger :: aggregators, contents =>
      let (told, forwarded) :=
        if aggregatorAdmits level aggregators then
          log clock level (depth + 1) aggregators contents
        else (aggregators, contents)
      ({ logger with streamLogLevel := level } :: told,
        if level ≤ logger.logLevel then
          write logger.outputStream (getPrefix (clock depth) level) forwarded
        else forwarded)

def overflowAggregator (c : Char) (sourceStreamLogLevel : LogLevel) :
    List (StreamLogger Stream) → (Stream → List Char) → Stream → List Char
  | [], contents => contents
  | logger :: aggregators, contents =>
      let written :=
        if sourceStreamLogLevel ≤ logger.logLevel ∧ logger.logLevel > LogLevel.off then
          write logger.outputStream [c] contents
        else contents
      if aggregatorAdmits sourceStreamLogLevel aggregators then
        overflowAggregator c sourceStreamLogLevel aggregators written
      else written

def overflow (win32 : Bool) (chain : List (StreamLogger Stream)) (contents : Stream → List Char)
    (c : Char) : Stream → List Char :=
  match chain with
  | [] => contents
  | logger :: aggregators =>
      if win32 && c == '\r' then contents
      else
        let written :=
          if logger.streamLogLevel ≤ logger.logLevel ∧ logger.streamLogLevel > LogLevel.off then
            write logger.outputStream [c] contents
          else contents
        if aggregatorAdmits logger.streamLogLevel aggregators then
          overflowAggregator c logger.streamLogLevel aggregators written
        else written

/-- `log(level) << characters` on the first logger. -/
def record (win32 : Bool) (clock : Nat → List Char) (level : LogLevel) (characters : List Char)
    (chain : List (StreamLogger Stream)) (contents : Stream → List Char) : Stream → List Char :=
  let (told, started) := log clock level 0 chain contents
  characters.foldl (overflow win32 told) started

end StreamLogger

end LeanMiniViews
