import CloudClient.Config
import CloudClient.Request
import CloudClient.Request.Name

/-!
# Requests to the storage service

Each operation of the storage service checks its arguments and becomes a request. Buckets and
objects are named in the path.
-/

namespace CloudClient

/-- What is to be stored: bytes in memory, a stream, or a value that is neither. -/
inductive Payload where
  | bytes (data : Bytes)
  | stream (s : Stream)
  | value (v : Json)
  deriving Inhabited

/-- What is said about the size of a stream: it is known, or it is to be measured. -/
inductive SizeHint where
  | known (n : Int)
  | measured
  deriving DecidableEq, Repr, Inhabited

namespace StorageRequest

/-- The path and the resource of a bucket. -/
def ofBucket (operation : Operation) (method : Method) (bucket : String) : Request :=
  { operation := operation.name, method, path := "/" ++ bucket, resource := bucket }

/-- The path and the resource of an object. -/
def ofObject (operation : Operation) (method : Method) (bucket key : String) : Request :=
  { operation := operation.name, method, path := s!"/{bucket}/{key}",
    resource := s!"{bucket}/{key}" }

/-- The bucket and the key of an object have proper names. -/
def checkObject (bucket key : String) : Except Fault Unit := do
  Name.checkBucket bucket
  Name.checkKey key

/-! ## Buckets -/

/-- The document that asks for a bucket in a region. -/
def regionDocument (region : String) : String :=
  "<CreateBucketConfiguration xmlns=\"http://s3.amazonaws.com/doc/2006-03-01/\">" ++
    s!"<LocationConstraint>{region}</LocationConstraint></CreateBucketConfiguration>"

/-- A new bucket; a region other than the default one is named in the body. -/
def createBucket (bucket : String) (region : Option String) : Except Fault Request := do
  Name.checkBucket bucket
  let request := ofBucket .createBucket .put bucket
  let region := region.getD ""
  if region.isEmpty || region = defaultRegion then return request
  Name.checkRegion region
  return { request with
    headers := .ofList [("Content-Type", "application/xml")]
    body := .bytes (Utf8.ofString (regionDocument region)) }

/-- All buckets of the caller. -/
def listAllBuckets : Request :=
  { operation := Operation.listAllBuckets.name, method := .get, path := "/", resource := "/" }

/-- The end of a bucket. -/
def deleteBucket (bucket : String) : Except Fault Request := do
  Name.checkBucket bucket
  return ofBucket .deleteBucket .delete bucket

/-- The size of a page in a query: a whole number above zero is sent, other numbers and no value
leave the choice to the service. A truth value counts as a number. -/
def pageSize? : Json → Except Fault (Option String)
  | .null => .ok none
  | .int n => .ok (if 0 < n then some (toString n) else none)
  | .bool b => .ok (if b then some (Config.truthText b) else none)
  | v => .error (.invalidArgument "max_keys" v "must be an integer or None")

/-- A query of the texts that are given and not empty. -/
def givenQuery (entries : List (String × Option String)) : Query :=
  .ofList <| entries.filterMap fun (k, v) => (Fault.firstGiven [v]).map fun s => (k, some s)

/-- A page of a bucket. -/
def listBucket (bucket keyPrefix marker : String) (maxKeys : Json) (delimiter : Option String) :
    Except Fault Request := do
  Name.checkBucket bucket
  let size ← pageSize? maxKeys
  return { ofBucket .listBucket .get bucket with
    query := givenQuery
      [("prefix", some keyPrefix), ("marker", some marker), ("delimiter", delimiter),
        ("max-keys", size)] }

/-! ## Objects -/

/-- The type of content that is announced when none is named. -/
def defaultContentType : String := "binary/octet-stream"

/-- The part of a stream that is stored: as many bytes as are said to be there, or all that are
left. A stream that can be measured must hold the bytes that it is said to hold. The second part
of the answer is the stream afterwards. -/
def streamPart (bucket key : String) (s : Stream) (size : Option SizeHint) :
    Except Fault StreamPart × Stream :=
  match size with
  | some (.known n) =>
    if n < 0 then (.error (.invalidArgument "size" (.int n) "must be >= 0"), s)
    else
      match s.position? with
      | none => (.ok { stream := s, length := n }, s)
      | some start =>
        match s.measureFor bucket key with
        | (.error f, s) => (.error f, s)
        | (.ok (_, available), s) =>
          if available < n then
            (.error (.invalidArgument "size" (.int n) s!"stream holds only {available} bytes"), s)
          else (.ok { stream := s, length := n, start := some start }, s)
  | _ =>
    match s.measureFor bucket key with
    | (.error f, s) => (.error f, s)
    | (.ok (start, length), s) => (.ok { stream := s, length, start := some start }, s)

/-- The stream stays where it was, whatever comes of it. -/
theorem snd_streamPart (bucket key : String) (s : Stream) (size : Option SizeHint) :
    (streamPart bucket key s size).2 = s := by
  have h := s.snd_measureFor bucket key
  unfold streamPart
  repeat' split
  all_goals simp_all

/-- The body that stores a payload, and the payload afterwards. -/
def payloadBody (bucket key : String) (size : Option SizeHint) :
    Payload → Except Fault Body × Payload
  | .bytes data => (.ok (.bytes data), .bytes data)
  | .stream s =>
    let (part, s) := streamPart bucket key s size
    (part.map .stream, .stream s)
  | .value v =>
    (.error (.invalidArgument "data" (.text v.kindName)
      "expected bytes or a readable binary stream"), .value v)

/-- Making a body leaves the payload as it was. -/
theorem snd_payloadBody (bucket key : String) (size : Option SizeHint) (data : Payload) :
    (payloadBody bucket key size data).2 = data := by
  cases data <;> simp [payloadBody, snd_streamPart]

/-- The header of a piece of user metadata. -/
def metadataHeader (name : String) : String := "x-amz-meta-" ++ Text.lowered name

/-- The headers with those of the user metadata. -/
def withMetadata (headers : Headers) : List (String × String) → Except Fault Headers
  | [] => .ok headers
  | (name, value) :: rest =>
    if name.isEmpty then
      .error (.invalidArgument "metadata" (.text name) "empty header name")
    else withMetadata (headers.put (metadataHeader name) value) rest

/-- An object to be stored under a body. It may be sent again exactly when its body can be. -/
def putBody (bucket key contentType : String) (metadata : Dict String) (body : Body) :
    Except Fault Request := do
  let contentType := if contentType.isEmpty then defaultContentType else contentType
  let headers ← withMetadata (.ofList [("Content-Type", contentType)]) metadata.entries
  return { ofObject .put .put bucket key with
    headers, body, isIdempotent := body.isReplayable }

/-- An object to be stored, and the payload afterwards. -/
def put (bucket key : String) (data : Payload) (contentType : String) (size : Option SizeHint)
    (metadata : Dict String) : Except Fault Request × Payload :=
  match checkObject bucket key with
  | .error f => (.error f, data)
  | .ok () =>
    let (body, data) := payloadBody bucket key size data
    (body.bind (putBody bucket key contentType metadata), data)

/-- Storing leaves the payload as it was, whatever comes of it. -/
theorem snd_put (bucket key : String) (data : Payload) (contentType : String)
    (size : Option SizeHint) (metadata : Dict String) :
    (put bucket key data contentType size metadata).2 = data := by
  unfold put
  split
  · rfl
  · exact snd_payloadBody bucket key size data

/-- An object to be fetched, unless it still has a known entity tag. -/
def get (bucket key : String) (oldTag : Option String) : Except Fault Request := do
  checkObject bucket key
  let request := ofObject .get .get bucket key
  match Fault.firstGiven [oldTag] with
  | none => return request
  | some tag => return { request with headers := .ofList [("If-None-Match", Name.quotedTag tag)] }

/-- An object to be removed. -/
def delete (bucket key : String) : Except Fault Request := do
  checkObject bucket key
  return ofObject .delete .delete bucket key

/-- An object whose properties are asked for. -/
def head (bucket key : String) : Except Fault Request := do
  checkObject bucket key
  return ofObject .head .head bucket key

end StorageRequest

end CloudClient
