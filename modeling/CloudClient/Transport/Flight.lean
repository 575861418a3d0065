import CloudClient.Transport.Session

/-!
# Calls in flight

A call is a tree of the steps by which it touches the world outside, each with the way it goes on
from what it learns there. Between two steps of one call other calls on the same transport may
take theirs. A request is handed to the session in one step and its answer taken in another.
-/

namespace CloudClient

/-- A line that a call writes to the log, within the fields of its scopes. -/
structure LogWarning where
  logger : String
  message : String
  context : Dict Json := .empty
  deriving Inhabited

/-- A response whose body is still to be read: the exchange that it belongs to, the operation, and
the length that it announces. -/
structure ObjectBody where
  exchange : Nat
  operation : String
  length : Option Int := none
  deriving DecidableEq, Repr, Inhabited

/-- The answer to a request; a live body comes with a handle. -/
structure Answer where
  response : Response
  live : Option ObjectBody := none
  deriving Inhabited

/-- What the session has taken over, to be settled later: the exchange and what the session will
come back with, or the fault of a body that broke off. -/
structure Handed where
  exchange : Nat
  request : SignedRequest
  isLive : Bool
  outcome : Except Fault Reply

/-- A call in flight. -/
inductive Flight (α : Type) where
  /-- The call has ended. -/
  | done (a : α)
  /-- Reads the clock. -/
  | clock (next : Except DateError DateTime → Flight α)
  /-- Counts a request that is to be sent. -/
  | countRequest (next : Flight α)
  /-- Counts a request that is to be sent again. -/
  | countRetry (next : Flight α)
  /-- Hands a request to the session, unless the transport is closed, and learns how its body
  stands afterwards. -/
  | handOver (request : SignedRequest) (live : Bool)
      (next : Except Fault (Handed × Body) → Flight α)
  /-- Takes the answer to a request. -/
  | settle (handed : Handed) (next : Except Failure Answer → Flight α)
  /-- Draws a random share of a wait. -/
  | share (next : Binary64 → Flight α)
  /-- Writes a line to the log. -/
  | warn (warning : LogWarning) (next : Flight α)
  /-- Waits for a number of seconds. -/
  | pause (seconds : Binary64) (next : Flight α)

namespace Flight

variable {α β : Type}

/-- Goes on with another call after the first has ended. -/
def bind (f : α → Flight β) : Flight α → Flight β
  | done a => f a
  | clock next => clock fun t => (next t).bind f
  | countRequest next => countRequest (next.bind f)
  | countRetry next => countRetry (next.bind f)
  | handOver request live next => handOver request live fun h => (next h).bind f
  | settle handed next => settle handed fun a => (next a).bind f
  | share next => share fun x => (next x).bind f
  | warn warning next => warn warning (next.bind f)
  | pause seconds next => pause seconds (next.bind f)

instance : Monad Flight where
  pure := done
  bind m f := m.bind f

end Flight

end CloudClient
