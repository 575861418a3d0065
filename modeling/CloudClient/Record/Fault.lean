import CloudClient.Failure
import CloudClient.Record.Field

/-!
# Records of faults

A fault as an object: its kind, code, text and context, what it says about itself, and for a
service fault what the service answered. The ways of making a fault are known by name, and each
family has its own.
-/

namespace CloudClient.Fault

/-- The fields that a family adds. -/
def familyFields (f : Fault) : List (String × Json) :=
  match f.family with
  | .transport => [("is_timeout", .bool f.isTimeout)]
  | .service operation d =>
    [("status", .int d.status), ("service_code", .ofText? d.serviceCode),
      ("request_id", .ofText? d.requestId), ("resource", .ofText? d.resource),
      ("operation", .text (Family.operationName operation)),
      ("is_not_found", .bool d.isNotFound), ("is_access_denied", .bool d.isAccessDenied)]
  | _ => []

/-- The record of a fault. -/
def record (f : Fault) : Json :=
  .object
    ([("error", .text f.family.name), ("code", .text f.code.name),
      ("code_value", .int f.code.value), ("message", .text f.message),
      ("context", (Json.ofDict f.context).fixed), ("cause", .ofText? (f.cause.map (·.kind)))] ++
      f.familyFields)

/-! ## Making a fault -/

/-- The way of making a construction fault that has a name. -/
def constructionWay? (name : String) : Option Parameters :=
  let way (required : List String) : Option Parameters :=
    some { call := s!"ConstructionError.{name}", receiver := "cls", required }
  match name with
  | "invalid_name" => way ["kind", "value", "reason"]
  | "malformed_path" => way ["path", "reason"]
  | "invalid_argument" => way ["name", "value", "reason"]
  | "factory_closed" => way ["service"]
  | _ => none

/-- The way of making a transport fault that has a name. -/
def transportWay? (name : String) : Option Parameters :=
  let way (required : List String) (optional : List String := []) : Option Parameters :=
    some { call := s!"TransportFault.{name}", receiver := "cls", required, optional }
  match name with
  | "connection_failed" => way ["operation", "url"] ["cause"]
  | "timeout" => way ["operation", "url", "timeout_s"] ["cause"]
  | "protocol_error" => way ["operation", "url"] ["cause"]
  | "retry_exhausted" => way ["operation", "attempts", "last_error"]
  | "closed" => way ["operation"]
  | _ => none

/-- The way of making a service fault that has a name. -/
def serviceWay? (name : String) : Option Parameters :=
  let way (required : List String) (optional : List String := []) : Option Parameters :=
    some { call := s!"ServiceFault.{name}", receiver := "cls", required, optional, byName := true }
  match name with
  | "from_response" =>
    way ["status"]
      ["reason", "service_code", "service_message", "request_id", "resource", "host_id"]
  | "malformed_response" => way ["status", "resource", "request_id", "reason"]
  | "integrity_mismatch" => way ["resource", "request_id", "expected", "actual"]
  | _ => none

/-- The plain way of making a fault, from its fields. -/
def plainWay (family : Family) : Parameters :=
  let diagnosis :=
    match family with
    | .service .. => ["status", "service_code", "request_id", "resource"]
    | _ => []
  { call := s!"{family.name}.__init__"
    required := ["code", "message"]
    optional := ["error_id", "timestamp", "cause", "context"] ++ diagnosis }

/-- The way of making a fault of a family that has a name. -/
def way? (family : Family) (name : String) : Option Parameters :=
  if name = "init" then some (plainWay family)
  else
    match family with
    | .general => none
    | .construction => constructionWay? name
    | .sizeUnknown =>
      if name = "unseekable" then
        some {
          call := "SizeUnknownError.unseekable"
          receiver := "cls"
          required := ["bucket", "key"]
          optional := ["cause"] }
      else constructionWay? name
    | .transport => transportWay? name
    | .service .. => serviceWay? name

/-- A fault of a family can be made in a way, of arguments with these names. -/
def checkWay (family : Family) (name : String) (given : List String) : Except Failure Unit :=
  match way? family name with
  | some p => (p.check given).mapError .argument
  | none =>
    .error (.foreign
      ⟨"AttributeError", s!"type object '{family.name}' has no attribute '{name}'"⟩)

/-- The fault with more context; the name of the fault itself is taken. -/
def withNamed (f : Fault) (more : Dict Json) : Except Failure Fault :=
  if more.contains "self" then .error (.argument (.repeated "AWSError.with_context" "self"))
  else .ok (f.withContext more)

end CloudClient.Fault
