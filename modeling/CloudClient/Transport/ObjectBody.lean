import CloudClient.Transport.State

/-!
# Live bodies

A live body keeps its response until it has been read or closed. It is read as a whole or in
chunks of one size, the last of which may be shorter; what has been read is not read again.
-/

namespace CloudClient

/-- Bytes in pieces of one size, the last of which may be shorter. -/
def pieces (size : Nat) (bytes : Bytes) : List Bytes :=
  if _h : size = 0 ∨ bytes = [] then []
  else bytes.take size :: pieces size (bytes.drop size)
termination_by bytes.length
decreasing_by
  have hpos : 0 < bytes.length := List.length_pos_iff.2 fun hb => _h (.inr hb)
  simp only [List.length_drop]
  omega

namespace ObjectBody

/-- The exchange of a body. -/
def exchange? (b : ObjectBody) (t : Transport) : Option Exchange := t.journal.exchanges[b.exchange]?

/-- The response has been given back to the session. -/
def isClosed (b : ObjectBody) (t : Transport) : Bool := (b.exchange? t).any (·.isReleased)

/-- What is left to read. -/
def unread (b : ObjectBody) (t : Transport) : Bytes := ((b.exchange? t).map (·.unread)).getD []

/-- The failure that ends the reading, if there is one. -/
def failure? (b : ObjectBody) (t : Transport) : Option Failure := do
  let e ← b.exchange? t
  let f ← e.readFailure
  return f.bodyFailure b.operation e.request.url t.config.requestTimeout

/-- Gives the response back. -/
def close (b : ObjectBody) (t : Transport) : Transport := t.release b.exchange

/-- Takes bytes from the front of what is left, and counts them. -/
def consume (b : ObjectBody) (n : Nat) (t : Transport) : Transport :=
  (t.modifyExchange b.exchange fun e => { e with unread := e.unread.drop n }).count
    (·.countReceived n)

/-- Reads all that is left; the response is given back also when that fails. -/
def read (b : ObjectBody) (t : Transport) : Except Failure Bytes × Transport :=
  match b.failure? t with
  | some e => (.error e, b.close t)
  | none =>
    let data := b.unread t
    (.ok data, b.close (b.consume data.length t))

/-- Reads chunks of a size, or of the usual size, until the caller has as many as are wanted; the
first chunk is always taken. What was read is answered along with the failure that ended it. -/
def readChunks (b : ObjectBody) (size : Option Nat) (wanted : Option Nat) (t : Transport) :
    (List Bytes × Option Failure) × Transport :=
  let size := (size.filter (· ≠ 0)).getD t.config.chunkSize.toNat
  let all := pieces size (b.unread t)
  let enough := wanted.map (max 1)
  let chunks := (enough.map all.take).getD all
  let isBroken := enough.any (· ≤ all.length)
  let failure := if isBroken then none else b.failure? t
  ((chunks, failure), b.close (b.consume chunks.flatten.length t))

end ObjectBody

end CloudClient
