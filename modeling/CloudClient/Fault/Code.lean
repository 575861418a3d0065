/-!
# Fault codes

Each fault carries a code that programs can test. Its number tells the layer that failed: 1xxx for
a call that could not be built, 2xxx for a request that got no answer, 3xxx for an answer that
reports a failure.
-/

namespace CloudClient

/-- The codes of all faults. -/
inductive FaultCode where
  | invalidName
  | malformedPath
  | sizeUnknown
  | invalidArgument
  | factoryClosed
  | connectionFailed
  | timeout
  | protocolError
  | retryExhausted
  | transportClosed
  | badRequest
  | accessDenied
  | notFound
  | conflict
  | preconditionFailed
  | unavailable
  | serviceError
  | malformedResponse
  | integrityMismatch
  deriving DecidableEq, Repr, Inhabited

namespace FaultCode

/-- The name of a code as reports write it. -/
def name : FaultCode → String
  | invalidName => "CONSTRUCTION_INVALID_NAME"
  | malformedPath => "CONSTRUCTION_MALFORMED_PATH"
  | sizeUnknown => "CONSTRUCTION_SIZE_UNKNOWN"
  | invalidArgument => "CONSTRUCTION_INVALID_ARGUMENT"
  | factoryClosed => "CONSTRUCTION_FACTORY_CLOSED"
  | connectionFailed => "TRANSPORT_CONNECTION_FAILED"
  | timeout => "TRANSPORT_TIMEOUT"
  | protocolError => "TRANSPORT_PROTOCOL_ERROR"
  | retryExhausted => "TRANSPORT_RETRY_EXHAUSTED"
  | transportClosed => "TRANSPORT_CLOSED"
  | badRequest => "SERVICE_BAD_REQUEST"
  | accessDenied => "SERVICE_ACCESS_DENIED"
  | notFound => "SERVICE_NOT_FOUND"
  | conflict => "SERVICE_CONFLICT"
  | preconditionFailed => "SERVICE_PRECONDITION_FAILED"
  | unavailable => "SERVICE_UNAVAILABLE"
  | serviceError => "SERVICE_ERROR"
  | malformedResponse => "SERVICE_MALFORMED_RESPONSE"
  | integrityMismatch => "SERVICE_INTEGRITY_MISMATCH"

/-- The number of a code. -/
def value : FaultCode → Nat
  | invalidName => 1001
  | malformedPath => 1002
  | sizeUnknown => 1003
  | invalidArgument => 1004
  | factoryClosed => 1005
  | connectionFailed => 2001
  | timeout => 2002
  | protocolError => 2003
  | retryExhausted => 2004
  | transportClosed => 2005
  | badRequest => 3001
  | accessDenied => 3002
  | notFound => 3003
  | conflict => 3004
  | preconditionFailed => 3005
  | unavailable => 3006
  | serviceError => 3007
  | malformedResponse => 3008
  | integrityMismatch => 3009

/-- All codes in the order of their numbers. -/
def all : List FaultCode :=
  [invalidName, malformedPath, sizeUnknown, invalidArgument, factoryClosed, connectionFailed,
    timeout, protocolError, retryExhausted, transportClosed, badRequest, accessDenied, notFound,
    conflict, preconditionFailed, unavailable, serviceError, malformedResponse, integrityMismatch]

/-- Every code is listed. -/
theorem mem_all (c : FaultCode) : c ∈ all := by cases c <;> decide

/-- The code of a given name. -/
def ofName? (s : String) : Option FaultCode := all.find? fun c => c.name == s

/-- A code is found by its name. -/
theorem ofName?_name (c : FaultCode) : ofName? c.name = some c := by cases c <;> decide

/-- The code of an answer follows from its status. -/
def ofStatus (status : Int) : FaultCode :=
  if status = 404 then notFound
  else if status = 401 ∨ status = 403 then accessDenied
  else if status = 409 then conflict
  else if status = 412 then preconditionFailed
  else if status = 503 then unavailable
  else if 400 ≤ status ∧ status < 500 then badRequest
  else serviceError

/-- The codes of failures after which the same request may succeed: no connection, no answer in
time, an answer that is not HTTP. -/
def isTransient (c : FaultCode) : Bool :=
  [connectionFailed, timeout, protocolError].contains c

end FaultCode

end CloudClient
