import CloudClient.Fault
import CloudClient.Timestamp

/-!
# Reports of a fault

A fault that is recorded gets an id and the instant at which it was made. The report of a recorded
fault is a JSON object for logs, a line for people, and a full listing of its fields.
-/

namespace CloudClient

/-- The id and the instant of a recorded fault. -/
structure Stamp where
  id : String
  made : Timestamp
  deriving DecidableEq, Repr, Inhabited

namespace Fault

/-- The fields of a fault for a structured log. -/
def report (f : Fault) (s : Stamp) : Dict Json :=
  let fields : Dict Json := .ofList
    [("error_id", .text s.id), ("error_type", .text f.family.name), ("code", .text f.code.name),
      ("code_value", .int f.code.value), ("message", .text f.message),
      ("timestamp_nanos", .int s.made.nanos), ("context", .ofDict f.context)]
  match f.cause with
  | none => fields
  | some c => fields.put "cause" (.text s!"{c.kind}: {c.text}")

/-- A fault on one line, with the first eight characters of its id. -/
def line (f : Fault) (s : Stamp) : String :=
  s!"[{f.code.name}] {f.message} (id={String.ofList (s.id.toList.take 8)})"

/-- A cause in a listing. -/
def listedCause : Option Cause → String
  | none => "None"
  | some c => s!"{c.kind}({Text.quoted c.text})"

/-- The fields that only a service fault has, in a listing. -/
def listedDiagnosis : Family → String
  | .service _ d =>
    s!", status={d.status}, service_code={(Json.ofText? d.serviceCode).quoted}, " ++
      s!"request_id={(Json.ofText? d.requestId).quoted}, " ++
      s!"resource={(Json.ofText? d.resource).quoted}"
  | _ => ""

/-- All fields of a fault in order; a general fault lists only its code, text and id. -/
def listing (f : Fault) (s : Stamp) : String :=
  match f.family with
  | .general =>
    s!"{f.family.name}(code={f.code.name}, message={Text.quoted f.message}, " ++
      s!"error_id={Text.quoted s.id})"
  | family =>
    s!"{family.name}(code=<ErrorCode.{f.code.name}: {f.code.value}>, " ++
      s!"message={Text.quoted f.message}, error_id={Text.quoted s.id}, " ++
      s!"timestamp={s.made.text}, cause={listedCause f.cause}, " ++
      s!"context={(Json.ofDict f.context).quoted}{listedDiagnosis family})"

end Fault

end CloudClient
