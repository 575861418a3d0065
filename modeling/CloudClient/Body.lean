import CloudClient.Failure

/-!
# Bodies of requests

A body is empty, a run of bytes in memory, or a part of a stream. Only a stream whose position is
known can be sent a second time.
-/

namespace CloudClient

/-- The part of a stream that is sent: so many bytes, from a position when it is known. A part that
is made by hand may have a length or a position below zero; it holds nothing, or cannot be sent
again. -/
structure StreamPart where
  stream : Stream
  length : Int
  start : Option Int := none
  deriving DecidableEq, Repr, Inhabited

/-- The body of a request. -/
inductive Body where
  | empty
  | bytes (data : Bytes)
  | stream (part : StreamPart)
  deriving DecidableEq, Repr, Inhabited

namespace StreamPart

/-- The stream again at the start of the part. -/
def rewind (p : StreamPart) : Except Failure StreamPart :=
  match p.start with
  | none => .error .notReplayable
  | some start => do return { p with stream := ← (p.stream.seek start).mapError .stream }

end StreamPart

namespace Body

/-- The kind of a body, by which requests are listed. -/
def kindName : Body → String
  | empty => "EmptyBody"
  | bytes _ => "BytesBody"
  | stream _ => "StreamBody"

/-- The number of bytes that a body announces. -/
def length : Body → Int
  | empty => 0
  | bytes data => data.length
  | stream p => p.length

/-- A body can be sent a second time. -/
def isReplayable : Body → Bool
  | empty => true
  | bytes _ => true
  | stream p => p.start.isSome

end Body

end CloudClient
