import CloudClient.Log.Line

/-!
# Output of the log

An application chooses a least level and a form for all lines. Loggers are named by paths whose
parts are separated by points, and a logger without a level of its own has that of the nearest
logger above it. The loggers of the network layer are quiet up to warnings.
-/

namespace CloudClient

/-- How lines are written. -/
structure LogSetup where
  level : LogLevel := .info
  structured : Bool := true
  deriving Inhabited

namespace LogSetup

/-- The loggers with a level of their own. -/
def quietLoggers : List (String × LogLevel) := [("aiohttp", .warning), ("asyncio", .warning)]

/-- A logger is the given one or stands below it. -/
def isWithin (logger ancestor : String) : Bool :=
  logger == ancestor || (ancestor ++ ".").isPrefixOf logger

/-- The level of a logger. -/
def levelOf (s : LogSetup) (logger : String) : LogLevel :=
  match quietLoggers.find? fun q => isWithin logger q.1 with
  | some q => q.2
  | none => s.level

/-- A record is written when both its logger and the output let its level through. -/
def accepts (s : LogSetup) (logger : String) (level : Int) : Bool :=
  0 < level && (s.levelOf logger).number ≤ level && s.level.number ≤ level

/-- The name that a line shows for a logger. -/
def shownName (logger : String) : String := if logger.isEmpty then "root" else logger

/-- The text that a message becomes, if it is written. -/
def write (s : LogSetup) (logger : String) (level : Int) (message : String)
    (created : EpochTime) : Except LineError (Option String) :=
  if s.accepts logger level then
    let r : LogRecord := { logger := shownName logger, level, message, created }
    (if s.structured then r.jsonLine .empty else r.plainLine).map some
  else .ok none

/-- The lines of a text that was written. -/
def lines (text : String) : List String := text.splitOn "\n"

end LogSetup

end CloudClient
