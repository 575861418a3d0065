import CloudClient.Retry.Attempts
import CloudClient.Transport.Flight

/-!
# Sending a request

A request is signed and sent. Only a request that may be repeated is sent again: every attempt
signs it anew, and puts a stream back to the place where its body starts. An answer of the service
counts as an answer whatever it says, and only some are worth another attempt.
-/

namespace CloudClient

namespace Flight

variable {α : Type}

/-- A step of a call whose body is at hand. -/
abbrev WithBody (α : Type) := StateT Body Flight α

/-- Hands a request over and takes its answer; the body stands afterwards as the session left
it. -/
def send (request : SignedRequest) (live : Bool) : WithBody (Except Failure Answer) := fun body =>
  handOver { request with body } live fun
    | .error f => done (.error (.fault f), body)
    | .ok (handed, body) => settle handed fun a => done (a, body)

/-- An attempt after the first: the request is signed anew, and its body put back to its start. -/
def sendAgain (sign : Flight (Except Failure SignedRequest)) (live : Bool) :
    WithBody (Except Failure Answer) := do
  match ← sign with
  | .error e => return .error e
  | .ok request =>
    countRetry (done ())
    match (request.body.resume (← get)).rewind with
    | .error e => return .error e
    | .ok body =>
      set body
      send request live

/-- What the attempts to send a request do outside; their lines in the log carry the fields of the
scope. -/
def attemptActions (first : SignedRequest) (sign : Flight (Except Failure SignedRequest))
    (live : Bool) (scope : Dict Json) : AttemptActions (StateT Body Flight) Answer where
  attempt n := if n = 0 then send first live else sendAgain sign live
  share := fun body => share fun x => done (x, body)
  warn message := fun body =>
    warn { logger := "awsrest.reliability.retry", message, context := scope } (done ((), body))
  pause seconds := fun body => pause seconds (done ((), body))

/-- Which attempts to send a request are made again. -/
def sendingRules (policy : RetryPolicy) (first : SignedRequest) : RetryRules Answer where
  operation := first.operation
  policy := if first.isRepeatable then policy else .single
  retriesFault := Fault.isRetryable
  retriesValue a := a.response.isRetryable

/-- Signs and sends a request. -/
def execute (policy : RetryPolicy) (scope : Dict Json) (live : Bool)
    (sign : Flight (Except Failure SignedRequest)) : Flight (Except Failure Answer) := do
  match ← sign with
  | .error e => return .error e
  | .ok first =>
    countRequest (done ())
    let scope := (scope.put "operation" (.text first.operation)).put "resource"
      (.text first.resource)
    let actions := attemptActions first sign live scope
    let ((_, outcome), _) ← ((sendingRules policy first).run actions).run first.body
    return outcome

end Flight

end CloudClient
