import CloudClient.Credentials
import CloudClient.Decode
import CloudClient.Listing.Cursor
import CloudClient.Request.Storage
import CloudClient.Signature
import CloudClient.Transport.Execution

/-!
# Connections to the storage service

A call becomes a request, is signed and sent, and its answer is decoded. Input that makes no
request, a service that cannot be reached, and an answer that reports a failure end the call in a
fault; nothing else of these is told to the caller in another way.
-/

namespace CloudClient

/-- What a call ends in: a result or a fault, or a failure that no fault tells. -/
abbrev CallOutcome := Except Failure (Except Fault Result)

/-- The end of a call: its outcome, and the handle of a live body. -/
structure CallEnd where
  outcome : CallOutcome
  live : Option ObjectBody := none

/-- A failure that ends a call: a fault is told as one. -/
def CallEnd.ofFailure : Failure → CallEnd
  | .fault f => { outcome := .ok (.error f) }
  | e => { outcome := .error e }

/-- Decodes the answer to a call. -/
def CallEnd.ofAnswer (c : CallInfo) (a : Answer) : CallEnd :=
  { outcome := decode c a.response, live := a.live }

/-- Signs a request at the time that the clock shows. -/
def Request.signed (r : Request) (credentials : Credentials) (endpoint : Endpoint) :
    Flight (Except Failure SignedRequest) :=
  .clock fun time =>
    .done <|
      match time with
      | .error e => .error (.date e)
      | .ok time => (Signer.ofEndpoint endpoint).sign r credentials endpoint time

/-- A call of the storage service. -/
inductive StorageCall where
  | createBucket (bucket : String)
  | listAllBuckets
  | deleteBucket (bucket : String)
  | listBucket (bucket keyPrefix marker : String) (maxKeys : Json) (delimiter : Option String)
  | put (bucket key : String) (data : Payload) (contentType : String) (size : Option SizeHint)
      (metadata : Dict String)
  | get (bucket key : String) (oldTag : Option String) (live : Bool)
  | delete (bucket key : String)
  | head (bucket key : String)

namespace StorageCall

/-- The operation of a call. -/
def operation : StorageCall → Operation
  | createBucket _ => .createBucket
  | listAllBuckets => .listAllBuckets
  | deleteBucket _ => .deleteBucket
  | listBucket .. => .listBucket
  | put .. => .put
  | get .. => .get
  | delete .. => .delete
  | head .. => .head

/-- The bucket that a call names. -/
def bucket : StorageCall → String
  | listAllBuckets => ""
  | createBucket b | deleteBucket b | listBucket b .. | put b .. | get b .. | delete b _
  | head b _ => b

/-- The key that a call names. -/
def key : StorageCall → String
  | put _ k .. | get _ k .. | delete _ k | head _ k => k
  | _ => ""

/-- The caller wants the body of the answer live. -/
def wantsLive : StorageCall → Bool
  | get _ _ _ live => live
  | _ => false

/-- The request of a call; a new bucket is made in a region. -/
def request (region : Option String) : StorageCall → Except Fault Request
  | createBucket bucket => StorageRequest.createBucket bucket region
  | listAllBuckets => .ok StorageRequest.listAllBuckets
  | deleteBucket bucket => StorageRequest.deleteBucket bucket
  | listBucket bucket keyPrefix marker maxKeys delimiter =>
    StorageRequest.listBucket bucket keyPrefix marker maxKeys delimiter
  | put bucket key data contentType size metadata =>
    (StorageRequest.put bucket key data contentType size metadata).1
  | get bucket key oldTag _ => StorageRequest.get bucket key oldTag
  | delete bucket key => StorageRequest.delete bucket key
  | head bucket key => StorageRequest.head bucket key

/-- The fields that every line in the log carries during a call. -/
def scope (c : StorageCall) : Dict Json :=
  .ofList
    [("operation", .text c.operation.name), ("bucket", .text c.bucket), ("key", .text c.key)]

/-- What the decoder of the answer has to know. -/
def info (c : StorageCall) (r : Request) : CallInfo :=
  { operation := c.operation, resource := r.resource, bucket := c.bucket, key := c.key }

end StorageCall

/-- A connection to the storage service. -/
structure StorageConnection where
  credentials : Credentials
  endpoint : Endpoint
  policy : RetryPolicy := {}

namespace StorageConnection

/-- A connection as it is shown: its endpoint, and the id of its key. -/
def listing (c : StorageConnection) : String :=
  s!"S3Connection(endpoint={Text.quoted c.endpoint.url}, " ++
    s!"access_key_id={Text.quoted c.credentials.keyId})"

/-- Makes a call. -/
def perform (c : StorageConnection) (call : StorageCall) : Flight CallEnd :=
  match call.request (some c.endpoint.region) with
  | .error f => return .ofFailure (.fault f)
  | .ok r => do
    let sign := r.signed c.credentials c.endpoint
    match ← Flight.execute c.policy call.scope call.wantsLive sign with
    | .error e => return .ofFailure e
    | .ok a => return .ofAnswer (call.info r) a

/-! ## Walks over a listing -/

/-- Asks for a page of a bucket. A good answer is decoded to a page and to no other result, so that
the last case does not arise. -/
def fetchPage (c : StorageConnection) (bucket : String) (q : PageQuery) :
    Flight (Except Failure Page) := do
  let e ← c.perform (.listBucket bucket q.keyPrefix q.marker q.maxKeys q.delimiter)
  return match e.outcome with
    | .error e => .error e
    | .ok (.error f) => .error (.fault f)
    | .ok (.ok (.listBucket p)) => .ok p
    | .ok (.ok _) => .error .noAttempt

/-- The cursor over a bucket; the bucket has a valid name, and a limit is not negative. -/
def cursor (bucket : String) (initial : PageQuery) (limit : Option Int) : Except Fault Cursor := do
  Name.checkBucket bucket
  Cursor.make initial limit

/-- Walks over a bucket with at most `fuel` requests. Each page passes to `visit`, which says
whether the caller wants to go on; the state that it keeps is answered with what ended the walk. -/
def walk {σ : Type} (c : StorageConnection) (bucket : String) (cursor : Cursor)
    (visit : Page → σ → Bool × σ) (fuel : Nat) (s : σ) : Flight (σ × Option Failure) := do
  let fetch (q : PageQuery) : StateT σ Flight (Except Failure Page) := fun s => do
    return (← c.fetchPage bucket q, s)
  let (ending, s) ← (cursor.walk fetch (fun p s => pure (visit p s)) fuel).run s
  match ending with
  | .failed e => return (s, some e)
  | .stalled message =>
    Flight.warn { logger := "awsrest.protocol.cursor", message } (.done (s, none))
  | .complete | .unfinished => return (s, none)

end StorageConnection

end CloudClient
