import CloudClient.Calendar.EpochTime
import CloudClient.Fault
import CloudClient.Log.Level
import CloudClient.Log.Template

/-!
# Log lines

A record of something that happened becomes a line. A structured line is a JSON object: when, how
severe, what and by whom, then the operation and the id of the request, then the fields of the
surrounding scopes, those of the record, and the failure that is being reported. A plain line has
the first four in columns.
-/

namespace CloudClient

/-- Something that happened. -/
structure LogRecord where
  logger : String
  level : Int
  message : String
  /-- The values for the places of the message. -/
  values : List Json := []
  /-- When it happened. -/
  created : EpochTime
  /-- What a line shows as the level. -/
  label : String := LogLevel.label level
  fields : Dict Json := .empty
  failure : Option Cause := none

/-- Why a record has no line. -/
inductive LineError where
  | template (e : TemplateError)
  | date (e : DateError)
  deriving DecidableEq, Repr

/-- The words of the error. -/
def LineError.message : LineError → String
  | template e => e.message
  | date e => e.message

namespace LogRecord

/-- The names of what every record carries; a field of such a name is never shown. -/
def ownNames : List String :=
  ["name", "msg", "args", "created", "filename", "funcName", "levelname", "levelno", "lineno",
    "module", "msecs", "pathname", "process", "processName", "relativeCreated", "stack_info",
    "exc_info", "exc_text", "thread", "threadName", "taskName", "message", "asctime"]

/-- A record with fields of its own. A field that goes by the name of the logger, of the level or of
the message stands for these. -/
def withFields (r : LogRecord) (fields : Dict Json) : LogRecord :=
  let shown (name : String) (default : String) : String :=
    ((fields.get? name).map Json.display).getD default
  { r with
    logger := shown "name" r.logger
    label := shown "levelname" r.label
    message := shown "msg" r.message
    fields }

/-- The instant of a record. -/
def instant (r : LogRecord) : Except LineError DateTime := r.created.toUtc.mapError .date

/-- The message with its values. -/
def text (r : LogRecord) : Except LineError String :=
  (fillTemplate r.message r.values).mapError .template

/-- A failure in one text. -/
def failureText (c : Cause) : String := if c.text.isEmpty then c.kind else s!"{c.kind}: {c.text}"

/-- All fields of a line in order: those of the scopes, those of the record, the failure. -/
def allFields (r : LogRecord) (scope : Dict Json) : Dict Json :=
  let shown := r.fields.entries.filter fun e => !ownNames.contains e.1
  let fields := scope.putAll shown
  match r.failure with
  | none => fields
  | some c => fields.put "exception" (.text (failureText c))

/-- A field that stands before the others, unless it counts as absent. -/
def leading (fields : Dict Json) (k : String) : List (String × Json) :=
  match fields.get? k with
  | none => []
  | some v => if v.isEmpty then [] else [(k, v)]

/-- The object of a structured line. -/
def object (r : LogRecord) (scope : Dict Json) (time : DateTime) (text : String) : Dict Json :=
  let fields := r.allFields scope
  let head : Dict Json :=
    .ofList
      ([("@timestamp", .text time.isoText), ("level", .text (r.label)),
        ("message", .text text), ("logger", .text r.logger)] ++
        leading fields "operation" ++ leading fields "request_id")
  head.putAll ((fields.erase "operation").erase "request_id").entries

/-- The structured line of a record within the fields of its scopes. -/
def jsonLine (r : LogRecord) (scope : Dict Json) : Except LineError String := do
  let t ← r.instant
  let s ← r.text
  return (Json.ofDict (r.object scope t s)).render

/-- A text filled with blanks up to a width. -/
def column (width : Nat) (s : String) : String :=
  s ++ String.ofList (List.replicate (width - s.length) ' ')

/-- The plain line of a record. -/
def plainLine (r : LogRecord) : Except LineError String := do
  let s ← r.text
  let t ← r.created.clockText.mapError LineError.date
  return s!"{t} | {column 8 (r.label)} | {r.logger} | {s}"

end LogRecord

end CloudClient
