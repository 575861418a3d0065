import CloudClient.Response
import CloudClient.Signature.Signed
import CloudClient.Transport.Upload

/-!
# The session of the network layer

A session takes a request and comes back with a response or with a failure. Failures fall into
four classes: the time is over, there is no connection, the exchange broke the protocol, or
something failed that is no matter of the network at all.
-/

namespace CloudClient

/-- The failures of a session. -/
inductive SessionFailure where
  | timeout
  | serverTimeout (text : String)
  | connection (text : String)
  | disconnected
  | system (number : Int) (text : String)
  | payload (text : String)
  | invalidUrl (text : String)
  | protocol (text : String)
  /-- A failure that is no matter of the network. -/
  | other (text : String)
  deriving DecidableEq, Repr, Inhabited

/-- The classes of a session's failures. -/
inductive SessionFailureClass where
  | timeout
  | connection
  | protocol
  | other
  deriving DecidableEq, Repr

namespace SessionFailure

/-- The class of a failure. A time-out of the server counts as one although its connection is
lost as well. -/
def kind : SessionFailure → SessionFailureClass
  | timeout | serverTimeout _ => .timeout
  | connection _ | disconnected | system .. => .connection
  | payload _ | invalidUrl _ | protocol _ => .protocol
  | other _ => .other

/-- A failure as the cause of a fault. -/
def cause : SessionFailure → Cause
  | timeout => ⟨"TimeoutError", ""⟩
  | serverTimeout text => ⟨"ServerTimeoutError", text⟩
  | connection text => ⟨"ClientConnectionError", text⟩
  | disconnected => ⟨"ServerDisconnectedError", "Server disconnected"⟩
  | system number text => ⟨"ClientOSError", s!"[Errno {number}] {text}"⟩
  | payload text => ⟨"ClientPayloadError", text⟩
  | invalidUrl text => ⟨"InvalidURL", text⟩
  | protocol text => ⟨"ClientError", text⟩
  | other text => ⟨"RuntimeError", text⟩

/-- The end of an attempt that the session failed. -/
def requestFailure (f : SessionFailure) (operation url : String) (limit : Binary64) : Failure :=
  match f.kind with
  | .timeout => .fault (.timedOut operation url limit (some f.cause))
  | .connection => .fault (.connectionFailed operation url (some f.cause))
  | .protocol => .fault (.protocolError operation url (some f.cause))
  | .other => .foreign f.cause

/-- The end of reading a body that the session failed; a lost connection counts as a broken
protocol. -/
def bodyFailure (f : SessionFailure) (operation url : String) (limit : Binary64) : Failure :=
  match f.kind with
  | .timeout => .fault (.timedOut operation url limit (some f.cause))
  | .connection | .protocol => .fault (.protocolError operation url (some f.cause))
  | .other => .foreign f.cause

end SessionFailure

/-- A response of the session, whose body is still to be read and may fail to be. -/
structure SessionResponse where
  status : Int := 200
  reason : String := ""
  headers : ResponseHeaders := []
  body : Bytes := []
  /-- The length that the response announces. -/
  length : Option Int := some 0
  readFailure : Option SessionFailure := none
  deriving Inhabited

/-- What a session comes back with. -/
inductive Reply where
  | response (r : SessionResponse)
  | failure (f : SessionFailure)
  deriving Inhabited

/-- How a session deals with a request: how many chunks of its body it takes, all unless a number
is given, and what it comes back with. -/
structure Delivery where
  pulls : Option Nat := none
  reply : Reply := .response {}
  deriving Inhabited

/-- A request that was handed to the session. -/
structure Exchange where
  request : SignedRequest
  cargo : Cargo
  /-- The body of the answer is wanted live. -/
  isLive : Bool
  /-- A response has come. -/
  hasResponse : Bool := false
  /-- The response has been given back to the session. -/
  isReleased : Bool := false
  /-- What is left of the response's body. -/
  unread : Bytes := []
  readFailure : Option SessionFailure := none

/-- What becomes of the session of a transport. -/
inductive SessionEvent where
  | opened
  | closed
  deriving DecidableEq, Repr, Inhabited

end CloudClient
