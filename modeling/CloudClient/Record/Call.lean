import CloudClient.Connection.Queue
import CloudClient.Record.Argument
import CloudClient.Record.Field

/-!
# Records of calls

Calls and their bodies, read from objects. A call is known by its name. An argument that may be
missing has a default then, and one that the call does not know is refused.
-/

namespace CloudClient

/-- Reads a stream. A stream of the usual kind moves to its position; any other one has been read
up to it, and to its end when the position is below zero. -/
def Stream.ofRecord (v : Json) : Except Failure Stream := do
  let content ← v.content.mapError .hex
  let position := v.intAt "pos"
  let kind? : Option StreamKind :=
    match v.textAt "stream" "seekable" with
    | "unseekable" => some .unseekable
    | "read_only" => some .readOnly
    | "tell_fails" => some .tellFails
    | "seek_fails" => some .seekFails
    | _ => none
  let s : Except StreamFailure Stream :=
    match kind? with
    | none => Stream.moveTo { content } position
    | some kind => (Stream.read? { kind, content } position).map (·.2)
  s.mapError .stream

/-- Reads a part of a stream. -/
def StreamPart.ofRecord (v : Json) (stream : Stream) : StreamPart :=
  { stream, length := v.intAt "length", start := v.intAt? "start" }

/-- Reads a body. -/
def Body.ofRecord (v : Json) : Except Failure Body :=
  match v.textAt "kind" "empty" with
  | "bytes" => (v.content.map .bytes).mapError .hex
  | "stream" => (Stream.ofRecord v).map fun s => .stream (.ofRecord v s)
  | _ => .ok .empty

/-- Reads what is to be stored. -/
def Payload.ofRecord (v : Json) : Except Failure Payload :=
  match v.textAt "kind" "bytes" with
  | "stream" => (Stream.ofRecord v).map .stream
  | "value" => .ok (.value (v.field "value"))
  | _ => (v.content.map .bytes).mapError .hex

/-- What a plain number says of a size. A connection takes it as the size unless it is negative;
to the maker of requests it says nothing. -/
def SizeHint.ofCount (n : Int) : CallTarget → SizeHint
  | .builder => .measured
  | .connection => if n < 0 then .measured else .known n

/-- Reads what is known of a size. -/
def SizeHint.ofRecord? (t : CallTarget) : Json → Option SizeHint
  | .text _ => some .measured
  | .object fields => some (.known ((Json.object fields).intAt "known"))
  | .int n => some (.ofCount n t)
  | _ => none

/-- The name of a bucket among the arguments of a call. -/
def bucketOf (a : Json) : Except Failure String :=
  Name.given "bucket" (a.field "bucket")

/-- The names of an object among the arguments of a call. The bucket is checked before a key that
is not given is refused. -/
def objectOf (a : Json) : Except Failure (String × String) := do
  let bucket ← bucketOf a
  match a.field "key" with
  | .text key => return (bucket, key)
  | v =>
    (Name.checkBucket bucket).mapError .fault
    let key ← Name.given "key" v
    return (bucket, key)

/-- Reads a call of the storage service. -/
def StorageCall.ofRecord (t : CallTarget) (method : String) (a : Json) :
    Except Failure StorageCall := do
  let data ← Payload.ofRecord (a.field "data")
  CallForm.check (CallForm.storage t) t.storageName method a.toDict.keys
  match method with
  | "create_bucket" => return .createBucket (← bucketOf a)
  | "list_all_buckets" => return .listAllBuckets
  | "delete_bucket" => return .deleteBucket (← bucketOf a)
  | "list_bucket" =>
    return .listBucket (← bucketOf a) (a.textAt "prefix") (a.textAt "marker") (a.field "max_keys")
      (a.textAt? "delimiter")
  | "put" =>
    let (bucket, key) ← objectOf a
    return .put bucket key data (a.textAt "content_type" StorageRequest.defaultContentType)
      (SizeHint.ofRecord? t (a.field "size")) (.ofList (a.field "metadata").textPairs)
  | "get" =>
    let (bucket, key) ← objectOf a
    return .get bucket key (a.textAt? "old_etag") (a.boolAt "stream")
  | "delete" =>
    let (bucket, key) ← objectOf a
    return .delete bucket key
  | _ =>
    let (bucket, key) ← objectOf a
    return .head bucket key

/-- The locator of a queue among the arguments of a call. -/
def queueOf (a : Json) : Except Failure String :=
  Name.given "queue URL" (a.field "queue_url")

/-- A text among the arguments of a call to a queue. The locator is read before a text that is not
given is refused. -/
def queueTextOf (url name reason : String) (a : Json) : Except Failure String :=
  match a.field name with
  | .text s => .ok s
  | v => do
    let _ ← Name.queuePath url
    throw (.fault (.invalidArgument name v reason))

/-- The number of messages among the arguments of a call. -/
def countOf (a : Json) : Json := (a.field? "max_messages").getD (.int 1)

/-- The names of attributes among the arguments of a call; null is no list of names. -/
def attributesOf (a : Json) : Except Failure (List String) :=
  match a.field? "names" with
  | none => .ok ["All"]
  | some .null => .error (.foreign ⟨"TypeError", "'NoneType' object is not iterable"⟩)
  | some v => .ok v.texts

/-- Reads a call of the queue service. -/
def QueueCall.ofRecord (t : CallTarget) (method : String) (a : Json) :
    Except Failure QueueCall := do
  CallForm.check CallForm.queue t.queueName method a.toDict.keys
  match method with
  | "create_queue" =>
    let name ← Name.given "queue" (a.field "name")
    return .createQueue name (a.field "default_visibility_timeout")
  | "list_queues" => return .listQueues (a.textAt "prefix")
  | "delete_queue" => return .deleteQueue (← queueOf a)
  | "send_message" =>
    let url ← queueOf a
    return .sendMessage url (← queueTextOf url "body" "message body must be non-empty" a)
  | "receive_message" =>
    let url ← queueOf a
    return .receiveMessage url (countOf a) (a.field "visibility_timeout")
  | "delete_message" =>
    let url ← queueOf a
    return .deleteMessage url (← queueTextOf url "receipt_handle" "must be non-empty" a)
  | _ =>
    let names ← attributesOf a
    return .getQueueAttributes (← queueOf a) names

/-- What ends the encoding of a value that is no text. -/
def unencodable : Cause := ⟨"TypeError", "quote_from_bytes() expected bytes"⟩

/-- A parameter of a query is a text or has no value. -/
def isParameter : Json → Bool
  | .text _ | .null => true
  | _ => false

/-- What ends a function of texts that is given another value. A function that has no use for a
value that counts as absent answers for it. -/
def misuseOf? (function : String) (v : Json) : Option Cause :=
  let lacks (what : String) : Cause :=
    ⟨"AttributeError", s!"'{v.kindName}' object has no attribute '{what}'"⟩
  match v with
  | .text _ => none
  | v =>
    match function with
    | "uri_encode" | "encode_path" => some unencodable
    | "canonical_query" | "wire_query" =>
      if v.toDict.entries.all fun e => isParameter e.2 then none else some unencodable
    | "validate_resource_path" =>
      some (if v.isEmpty then ⟨"TypeError", s!"'{v.kindName}' object is not subscriptable"⟩
        else lacks "startswith")
    | "validate_region" =>
      some ⟨"TypeError", s!"expected string or bytes-like object, got '{v.kindName}'"⟩
    | "normalize_etag" => some (lacks "strip")
    | "md5_hex" => some (lacks "encode")
    | "parse_iso_datetime" => if v.isEmpty then none else some (lacks "strip")
    | "parse_http_datetime" => if v.isEmpty then none else some (lacks "split")
    | _ => none

end CloudClient
