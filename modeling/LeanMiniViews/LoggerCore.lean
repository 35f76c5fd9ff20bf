import Mathlib.Data.List.Basic

/-!
Loggers that write to a stream and pass what they are given to an aggregator. A logger with its
aggregator, the aggregator of that and so on is a list here. `outputStream` is what a logger has
put into its stream, and is missing where the pointer is null.
-/

namespace LeanMiniViews

/-- `LogLevel` is a `uint32_t`, and levels between the named ones are used. -/
abbrev LogLevel := UInt32

namespace LogLevel

def off : LogLevel := 0

def fatal : LogLevel := 100

def error : LogLevel := 200

def warn : LogLevel := 300

def info : LogLevel := 400

def debug : LogLevel := 500

def trace : LogLevel := 600

def all : LogLevel := 0xFFFFFFFF

end LogLevel

structure Logger where
  logLevel : LogLevel
  streamLogLevel : LogLevel
  outputStream : Option (List Char)
deriving DecidableEq, Repr

namespace Logger

def init (outputStream : Option (List Char)) (logLevel : LogLevel) : Logger :=
  ⟨logLevel, logLevel, outputStream⟩

def write (logger : Logger) (text : List Char) : Logger :=
  { logger with outputStream := logger.outputStream.map fun written => written ++ text }

def put (logger : Logger) (c : Char) : Logger := logger.write [c]

def getPrefix (timestamp : List Char) (logLevel : LogLevel) : List Char :=
  timestamp ++
    (if logLevel = LogLevel.fatal then " FATAL: ".toList
    else if logLevel = LogLevel.error then " ERROR: ".toList
    else if logLevel = LogLevel.warn then " WARN: ".toList
    else if logLevel = LogLevel.info then " INFO: ".toList
    else if logLevel = LogLevel.debug then " DEBUG: ".toList
    else if logLevel = LogLevel.trace then " TRACE: ".toList
    else " LEVEL[".toList ++ (toString logLevel.toNat).toList ++ "]: ".toList)

/-- There is an aggregator, and the level is not above its own. -/
def aggregatorAdmits (level : LogLevel) : List Logger → Bool
  | [] => false
  | aggregator :: _ => level ≤ aggregator.logLevel

/-- The clock gives the time at which each logger of the chain asks for it. -/
def log (clock : Nat → List Char) (level : LogLevel) : List Logger → List Logger
  | [] => []
  | logger :: aggregators =>
      let streaming := { logger with streamLogLevel := level }
      (if level ≤ logger.logLevel then streaming.write (getPrefix (clock 0) level)
        else streaming) ::
      if aggregatorAdmits level aggregators then
        log (fun depth => clock (depth + 1)) level aggregators
      else aggregators

def overflowAggregator (c : Char) (sourceStreamLogLevel : LogLevel) :
    List Logger → List Logger
  | [] => []
  | logger :: aggregators =>
      (if sourceStreamLogLevel ≤ logger.logLevel ∧ logger.logLevel > LogLevel.off then
          logger.put c
        else logger) ::
      if aggregatorAdmits sourceStreamLogLevel aggregators then
        overflowAggregator c sourceStreamLogLevel aggregators
      else aggregators

/-- `win32` is whether `_WIN32` is defined. -/
def overflow (win32 : Bool) (chain : List Logger) (c : Char) : List Logger :=
  match chain with
  | [] => []
  | logger :: aggregators =>
      if win32 && c == '\r' then logger :: aggregators
      else
        (if logger.streamLogLevel ≤ logger.logLevel ∧ logger.streamLogLevel > LogLevel.off then
            logger.put c
          else logger) ::
        if aggregatorAdmits logger.streamLogLevel aggregators then
          overflowAggregator c logger.streamLogLevel aggregators
        else aggregators

/-- `<<` on the first logger, whose buffer has no room and so overflows at each character. -/
def stream (win32 : Bool) (characters : List Char) (chain : List Logger) : List Logger :=
  characters.foldl (overflow win32) chain

/-- `log(level, message)`, the form that takes the message as an argument. -/
def logMessage (clock : Nat → List Char) (level : LogLevel) (message : List Char) :
    List Logger → List Logger
  | [] => []
  | logger :: aggregators =>
      (if level ≤ logger.logLevel then
          logger.write (getPrefix (clock 0) level ++ message ++ ['\n'])
        else logger) ::
      logMessage (fun depth => clock (depth + 1)) level message aggregators

/-- The form that takes an exception as well. -/
def logException (clock : Nat → List Char) (level : LogLevel) (message what : List Char) :
    List Logger → List Logger :=
  logMessage clock level (message ++ ['\n'] ++ what)

/-! The named variants. -/

def fatal (clock : Nat → List Char) : List Logger → List Logger := log clock LogLevel.fatal

def error (clock : Nat → List Char) : List Logger → List Logger := log clock LogLevel.error

def warn (clock : Nat → List Char) : List Logger → List Logger := log clock LogLevel.warn

def info (clock : Nat → List Char) : List Logger → List Logger := log clock LogLevel.info

def debug (clock : Nat → List Char) : List Logger → List Logger := log clock LogLevel.debug

def trace (clock : Nat → List Char) : List Logger → List Logger := log clock LogLevel.trace

def fatalMessage (clock : Nat → List Char) : List Char → List Logger → List Logger :=
  logMessage clock LogLevel.fatal

def errorMessage (clock : Nat → List Char) : List Char → List Logger → List Logger :=
  logMessage clock LogLevel.error

def warnMessage (clock : Nat → List Char) : List Char → List Logger → List Logger :=
  logMessage clock LogLevel.warn

def infoMessage (clock : Nat → List Char) : List Char → List Logger → List Logger :=
  logMessage clock LogLevel.info

def debugMessage (clock : Nat → List Char) : List Char → List Logger → List Logger :=
  logMessage clock LogLevel.debug

def traceMessage (clock : Nat → List Char) : List Char → List Logger → List Logger :=
  logMessage clock LogLevel.trace

def fatalException (clock : Nat → List Char) : List Char → List Char → List Logger → List Logger :=
  logException clock LogLevel.fatal

def errorException (clock : Nat → List Char) : List Char → List Char → List Logger → List Logger :=
  logException clock LogLevel.error

def warnException (clock : Nat → List Char) : List Char → List Char → List Logger → List Logger :=
  logException clock LogLevel.warn

def infoException (clock : Nat → List Char) : List Char → List Char → List Logger → List Logger :=
  logException clock LogLevel.info

def debugException (clock : Nat → List Char) : List Char → List Char → List Logger → List Logger :=
  logException clock LogLevel.debug

def traceException (clock : Nat → List Char) : List Char → List Char → List Logger → List Logger :=
  logException clock LogLevel.trace

end Logger

end LeanMiniViews
