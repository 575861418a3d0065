import CloudClient.Log.Line
import CloudClient.Log.Scope

/-!
# Loggers

A logger has a name, a least level and fields of its own. It makes a record of a message unless
the level is below its own. A field may not have the name of something that every record carries.
-/

namespace CloudClient

/-- A logger with its own fields. -/
structure Logger where
  name : String
  level : Int
  defaults : Dict Json := .empty
  deriving Inhabited

/-- Why a message cannot be logged. -/
inductive LoggerError where
  /-- A field has the name of something that the record carries. -/
  | reserved (field : String)
  /-- A field has the name of an argument of the call. -/
  | repeated (call field : String)
  | line (e : LineError)
  deriving DecidableEq, Repr

/-- The words of the error. -/
def LoggerError.message : LoggerError → String
  | reserved field => Text.quoted s!"Attempt to overwrite {Text.quoted field} in LogRecord"
  | repeated call field =>
    s!"StructuredLogger.{call}() got multiple values for argument '{field}'"
  | line e => e.message

namespace Logger

/-- The level of a logger when none is set anywhere above it. -/
def defaultLevel : Int := LogLevel.warning.number

/-- The names that a field may not have: what a record carries when it is made, and the two texts
that are added when it is written. -/
def reservedNames : List String := LogRecord.ownNames.filter (· != "taskName")

/-- A message of a level is recorded. -/
def isEnabled (l : Logger) (level : Int) : Bool := 0 < level && l.level ≤ level

/-- A field that has the name of one of the arguments of a call. -/
def repeatedArgument? (arguments : List String) (fields : Dict Json) : Option String :=
  fields.keys.find? arguments.contains

/-- The record of a message, if the level is enabled. The fields of the call stand over those of
the logger. -/
def record (l : Logger) (level : LogLevel) (message : String) (fields : Dict Json)
    (created : EpochTime) : Except LoggerError (Option LogRecord) :=
  match repeatedArgument? ["self", "message"] fields with
  | some field => .error (.repeated level.name.toLower field)
  | none =>
    if fields.contains "level" then .error (.repeated "_log" "level")
    else if !l.isEnabled level.number then .ok none
    else
      let all := l.defaults.merge fields
      match all.keys.find? reservedNames.contains with
      | some field => .error (.reserved field)
      | none =>
        .ok (some { logger := l.name, level := level.number, message, created, fields := all })

/-- The line of a message within the fields of the open scopes, if the level is enabled. -/
def line (l : Logger) (scope : LogScope) (level : LogLevel) (message : String)
    (fields : Dict Json) (created : EpochTime) : Except LoggerError (Option String) := do
  match ← l.record level message fields created with
  | none => return none
  | some r => return some (← (r.jsonLine scope.current).mapError .line)

/-- A logger of the same name with more fields of its own. -/
def child (l : Logger) (fields : Dict Json) : Except LoggerError Logger :=
  if fields.contains "self" then .error (.repeated "with_extra" "self")
  else .ok { l with defaults := l.defaults.merge fields }

end Logger

end CloudClient
