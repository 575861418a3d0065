import CloudClient.Decode.Header
import CloudClient.Decode.Queue
import CloudClient.Decode.Storage
import CloudClient.Encoding.Binary
import CloudClient.Hash.Md5

/-!
# Reading responses

The response to an operation becomes its result or its fault. A status that reports a failure
becomes a fault with what the error document says; a good status with an unreadable body becomes a
fault as well, and so does a checksum that does not fit.
-/

namespace CloudClient

/-- What is known of a call when its response is read. -/
structure CallInfo where
  operation : Operation
  resource : String
  bucket : String := ""
  key : String := ""
  /-- The body of the message that was sent. -/
  sentBody : Option String := none
  deriving DecidableEq, Repr, Inhabited

/-- The MD5 checksum of a text, in hexadecimal. -/
def md5Text (text : String) : String := Hex.ofBytes (Hash.Md5.digest (Utf8.ofString text))

namespace Decode

open Document

/-! ## Error documents -/

/-- The root of an error document, if there is one that can be read. -/
def errorRoot? (r : Response) : Option Xml.Node :=
  if r.body.isEmpty then none else Xml.readDocument? r.body

/-- The element that describes an error: the root itself, or an element below it. -/
def errorElement? (root : Xml.Node) : Option Xml.Node :=
  if root.tag = "Error" then some root else root.descendant? "Error"

/-- The fault that an answer of a bad status reports. -/
def errorFault (c : CallInfo) (r : Response) : Fault :=
  let root := errorRoot? r
  let error := root.bind errorElement?
  let fromRoot (given : Option String) (tag : String) : Option String :=
    match root with
    | none => given
    | some n => (nonEmpty? given).or (nonEmpty? (descendantText? n tag))
  .ofAnswer c.operation
    { status := r.status
      serviceCode := nonEmpty? (error.bind (childText? · "Code"))
      requestId := fromRoot r.requestId "RequestId"
      resource := c.resource }
    r.reason
    (nonEmpty? (error.bind (childText? · "Message")))
    (fromRoot (r.headers.first? "x-amz-id-2") "HostId")

/-! ## Results -/

/-- Reads a document as a result; a document that cannot be read becomes a fault. -/
def ofDocument (c : CallInfo) (r : Response) (result : Except DocumentError Result) :
    Except Fault Result :=
  result.mapError fun e =>
    .malformedResponse c.operation r.status c.resource r.requestId e.message

/-- Reads the headers of an object as part of a result. A length that cannot be read becomes a
fault; a date that is out of range fails as it is. -/
def ofHeaders (c : CallInfo) (r : Response) (make : ObjectInfo → Result) :
    Except Failure (Except Fault Result) :=
  match Header.objectInfo r.headers with
  | .ok info => .ok (.ok (make info))
  | .error (.integer e) =>
    .ok (.error (.malformedResponse c.operation r.status c.resource r.requestId e.message))
  | .error e => .error e

/-- The result of a good answer. -/
def result (c : CallInfo) (r : Response) : Except Failure (Except Fault Result) :=
  let document (d : Except DocumentError Result) : Except Failure (Except Fault Result) :=
    .ok (ofDocument c r d)
  match c.operation with
  | .createBucket =>
    .ok (.ok (.createBucket c.bucket (r.headers.first? "Location") r.requestId))
  | .listAllBuckets => document (StorageDocument.listAllBuckets r)
  | .deleteBucket => .ok (.ok (.deleteBucket c.bucket r.requestId))
  | .listBucket => document (StorageDocument.listBucket c.bucket r)
  | .put =>
    .ok (.ok (.put c.bucket c.key (r.headers.first? "ETag") (r.headers.first? "x-amz-version-id")
      r.requestId))
  | .get =>
    let content : Content := if r.isLive then .live else .data r.body
    ofHeaders c r fun info => .get c.bucket c.key info content r.requestId
  | .delete => .ok (.ok (.delete c.bucket c.key r.requestId))
  | .head => ofHeaders c r fun info => .head c.bucket c.key info r.requestId
  | .createQueue => document (QueueDocument.createQueue r)
  | .listQueues => document (QueueDocument.listQueues r)
  | .deleteQueue => document (QueueDocument.deleteQueue c.resource r)
  | .sendMessage => document (QueueDocument.sendMessage r)
  | .receiveMessage => document (QueueDocument.receiveMessage r)
  | .deleteMessage => document (QueueDocument.deleteMessage r)
  | .getQueueAttributes => document (QueueDocument.getQueueAttributes r)

/-! ## Checksums -/

/-- The checksum of a message fits its body, or is not given. -/
def isIntact (m : Message) : Bool :=
  m.md5OfBody.isEmpty || Text.lowered m.md5OfBody == md5Text m.body

/-- The result when all checksums in it fit: the one that answers a sent message, and those of
received messages. -/
def checked (c : CallInfo) : Result → Except Fault Result
  | .sendMessage messageId md5 requestId =>
    match c.sentBody with
    | none => .ok (.sendMessage messageId md5 requestId)
    | some body =>
      if Text.lowered md5 = md5Text body then .ok (.sendMessage messageId md5 requestId)
      else .error (.integrityMismatch c.operation c.resource requestId (md5Text body) md5)
  | .receiveMessage messages requestId =>
    match messages.find? fun m => !isIntact m with
    | none => .ok (.receiveMessage messages requestId)
    | some m =>
      .error (.integrityMismatch c.operation c.resource requestId m.md5OfBody (md5Text m.body))
  | r => .ok r

end Decode

/-- The result or the fault of an operation, from its response. An object that has not changed
since the caller's copy is a result too. -/
def decode (c : CallInfo) (r : Response) : Except Failure (Except Fault Result) :=
  if r.status = 304 ∧ c.operation = .get then do
    let info ← Header.objectInfo r.headers
    return .ok (.get c.bucket c.key info .notModified r.requestId)
  else if !r.isOk then .ok (.error (Decode.errorFault c r))
  else (Decode.result c r).map fun result => result.bind (Decode.checked c)

end CloudClient
