import CloudClient.Dict
import CloudClient.Fault.Code
import CloudClient.Json
import CloudClient.Operation
import CloudClient.Text.Quoted

/-!
# Faults

A call fails in one of three places. A *construction* fault is input that cannot be turned into a
request, a *transport* fault is a request that got no answer, and a *service* fault is an answer
that reports a failure. Every fault carries its code, its text, the failure that caused it, and
the particulars of the call.
-/

namespace CloudClient

/-- The failure of another layer that led to a fault: its kind and its text. -/
structure Cause where
  kind : String
  text : String
  deriving DecidableEq, Repr, Inhabited

/-- What a service answered: the status, its own code for the failure, the id of the request and
the resource that the call addressed. -/
structure Diagnosis where
  status : Int := 0
  serviceCode : Option String := none
  requestId : Option String := none
  resource : Option String := none
  deriving DecidableEq, Repr, Inhabited

namespace Diagnosis

/-- The codes by which the services say that the addressed thing does not exist. -/
def notFoundCodes : List String :=
  ["NoSuchKey", "NoSuchBucket", "NotFound", "AWS.SimpleQueueService.NonExistentQueue",
    "QueueDoesNotExist"]

/-- A service fault means that the addressed thing does not exist. -/
def isNotFound (d : Diagnosis) : Bool :=
  d.status == 404 || notFoundCodes.contains (d.serviceCode.getD "")

/-- A service fault means that the caller may not do this. -/
def isAccessDenied (d : Diagnosis) : Bool :=
  d.status == 401 || d.status == 403

end Diagnosis

/-- The place where a call failed; a service fault names its operation. -/
inductive Family where
  | general
  | construction
  | sizeUnknown
  | transport
  | service (operation : Option Operation) (diagnosis : Diagnosis)
  deriving DecidableEq, Repr, Inhabited

namespace Family

/-- The name of the operation in the texts of service faults. -/
def operationName (operation : Option Operation) : String :=
  match operation with
  | none => "Request"
  | some o => o.name

/-- The kind of a fault, by which reports name it. -/
def name : Family → String
  | general => "AWSError"
  | construction => "ConstructionError"
  | sizeUnknown => "SizeUnknownError"
  | transport => "TransportFault"
  | service none _ => "ServiceFault"
  | service (some o) _ => o.name ++ "Fault"

end Family

/-- A failed call. -/
structure Fault where
  family : Family
  code : FaultCode
  message : String
  context : Dict Json := .empty
  cause : Option Cause := none
  deriving Inhabited

namespace Fault

/-! ## Construction faults -/

/-- A bucket, a key or a queue has a name that its rules refuse. -/
def invalidNameIn (family : Family) (kind : String) (value : Json) (reason : String) : Fault :=
  let shown := Text.shortened value.display
  { family
    code := .invalidName
    message := s!"Invalid {kind} name {Text.quoted shown}: {reason}"
    context := .ofList [("kind", .text kind), ("value", .text shown), ("reason", .text reason)] }

/-- A path cannot be signed. -/
def malformedPathIn (family : Family) (path reason : String) : Fault :=
  let shown := Text.shortened path
  { family
    code := .malformedPath
    message := s!"Malformed resource path {Text.quoted shown}: {reason}"
    context := .ofList [("path", .text shown), ("reason", .text reason)] }

/-- An argument is out of range or of the wrong kind. -/
def invalidArgumentIn (family : Family) (name : String) (value : Json) (reason : String) :
    Fault :=
  { family
    code := .invalidArgument
    message := s!"Invalid argument '{name}': {reason}"
    context := .ofList
      [("argument", .text name), ("value", .text (Text.shortened value.display)),
        ("reason", .text reason)] }

/-- A connection was asked of a factory that is shut down. -/
def factoryClosedIn (family : Family) (service : String) : Fault :=
  { family
    code := .factoryClosed
    message := s!"Cannot create {service} connection: factory is shut down"
    context := .ofList [("service", .text service)] }

/-- A refused name, as the checks of names report it. -/
def invalidName (kind value reason : String) : Fault :=
  invalidNameIn .construction kind (.text value) reason

/-- A refused path, as the check of paths reports it. -/
def malformedPath (path reason : String) : Fault := malformedPathIn .construction path reason

/-- A refused argument, as the builders report it. -/
def invalidArgument (name : String) (value : Json) (reason : String) : Fault :=
  invalidArgumentIn .construction name value reason

/-- A connection that a closed factory does not make. -/
def factoryClosed (service : String) : Fault := factoryClosedIn .construction service

/-- A stream has no stated size and cannot be measured. -/
def unseekable (bucket key : String) (cause : Option Cause) : Fault :=
  { family := .sizeUnknown
    code := .sizeUnknown
    message := s!"Cannot determine size of stream for {bucket}/{key}: " ++
      "stream is not seekable and no size was given"
    context := .ofList [("bucket", .text bucket), ("key", .text key)]
    cause }

/-! ## Transport faults -/

/-- The text of a cause inside a message; a fault without a cause says so. -/
def causeText : Option Cause → String
  | none => "None"
  | some c => c.text

/-- No connection was made, or it broke. -/
def connectionFailed (operation url : String) (cause : Option Cause) : Fault :=
  { family := .transport
    code := .connectionFailed
    message := s!"{operation}: connection to {url} failed: {causeText cause}"
    context := .ofList [("operation", .text operation), ("url", .text url)]
    cause }

/-- The answer did not come in time. -/
def timedOut (operation url : String) (seconds : Binary64) (cause : Option Cause) : Fault :=
  { family := .transport
    code := .timeout
    message := s!"{operation}: request to {url} timed out after {seconds.shortestText}s"
    context := .ofList
      [("operation", .text operation), ("url", .text url), ("timeout_s", .float seconds)]
    cause }

/-- The answer was not HTTP. -/
def protocolError (operation url : String) (cause : Option Cause) : Fault :=
  { family := .transport
    code := .protocolError
    message := s!"{operation}: protocol error talking to {url}: {causeText cause}"
    context := .ofList [("operation", .text operation), ("url", .text url)]
    cause }

/-- All attempts failed: the last failure, told with the number of attempts. -/
def retryExhausted (operation : String) (attempts : Int) (last : Fault) : Fault :=
  { family := .transport
    code := last.code
    message := s!"{operation}: giving up after {attempts} attempts: {last.message}"
    context := last.context.put "attempts" (.int attempts)
    cause := last.cause }

/-- A request was made after the transport was shut down. -/
def transportClosed (operation : String) : Fault :=
  { family := .transport
    code := .transportClosed
    message := s!"{operation}: transport is closed"
    context := .ofList [("operation", .text operation)] }

/-! ## Service faults -/

/-- The first text that is given and not empty. -/
def firstGiven : List (Option String) → Option String
  | [] => none
  | some s :: rest => if s = "" then firstGiven rest else some s
  | none :: rest => firstGiven rest

/-- A resource in a message; a call without one addresses the root. -/
def resourceText (resource : Option String) : String := (firstGiven [resource]).getD "/"

/-- An answer that reports a failure, with the service's own code, text and ids. -/
def ofAnswer (operation : Option Operation) (diagnosis : Diagnosis) (reason : String)
    (serviceMessage hostId : Option String) : Fault :=
  let name := Family.operationName operation
  let detail := (firstGiven [serviceMessage, some reason]).getD "no message"
  let label := (firstGiven [diagnosis.serviceCode]).getD s!"HTTP {diagnosis.status}"
  { family := .service operation diagnosis
    code := .ofStatus diagnosis.status
    message := s!"{name} failed for {resourceText diagnosis.resource}: {label}: {detail}"
    context := .ofList
      [("operation", .text name), ("resource", .ofText? diagnosis.resource),
        ("status", .int diagnosis.status), ("service_code", .ofText? diagnosis.serviceCode),
        ("request_id", .ofText? diagnosis.requestId), ("host_id", .ofText? hostId)] }

/-- An answer of a good status whose body cannot be read. -/
def malformedResponse (operation : Option Operation) (status : Int)
    (resource requestId : Option String) (reason : String) : Fault :=
  let name := Family.operationName operation
  { family := .service operation { status, requestId, resource }
    code := .malformedResponse
    message :=
      s!"{name} returned an undecodable response for {resourceText resource}: {reason}"
    context := .ofList
      [("operation", .text name), ("resource", .ofText? resource), ("status", .int status),
        ("request_id", .ofText? requestId), ("reason", .text reason)] }

/-- The checksum that the service answered is not that of the sent body. -/
def integrityMismatch (operation : Option Operation) (resource requestId : Option String)
    (expected actual : String) : Fault :=
  let name := Family.operationName operation
  { family := .service operation { status := 200, requestId, resource }
    code := .integrityMismatch
    message := s!"{name} checksum mismatch for {resourceText resource}: " ++
      s!"sent {expected}, service saw {actual}"
    context := .ofList
      [("operation", .text name), ("resource", .ofText? resource),
        ("request_id", .ofText? requestId), ("expected", .text expected),
        ("actual", .text actual)] }

/-! ## Questions about a fault -/

/-- The answer did not come in time. -/
def isTimeout (f : Fault) : Bool := f.code == .timeout

/-- A fault of the transport after which the same request may succeed. -/
def isRetryable (f : Fault) : Bool := f.family == .transport && f.code.isTransient

/-- A fault with more particulars; a name that is there already takes the new value. -/
def withContext (f : Fault) (more : Dict Json) : Fault :=
  { f with context := f.context.merge more }

end Fault

end CloudClient
