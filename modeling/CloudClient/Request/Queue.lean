import CloudClient.Operation
import CloudClient.Request
import CloudClient.Request.Name

/-!
# Requests to the queue service

Each operation of the queue service is a form whose first field names the operation. A queue is
addressed by the path of its locator. A form shows a number as it is given. A count of messages or
seconds is compared with its bounds first, and a value that is no number has no place among
numbers.
-/

namespace CloudClient

/-! ## Counts -/

namespace Json

/-- What ends a comparison of two kinds of values that have no order. -/
def orderFailure (sign left right : String) : Failure :=
  .foreign
    ⟨"TypeError", s!"'{sign}' not supported between instances of '{left}' and '{right}'"⟩

/-- A count is less than a bound. -/
def isBelow (v : Json) (bound : Int) : Except Failure Bool :=
  match v.integer?, v with
  | some n, _ => .ok (n < bound)
  | none, .float x => .ok (x.ltInt bound)
  | none, v => .error (orderFailure "<" v.kindName "int")

/-- A count is not less than one bound and not greater than another. -/
def isBetween (v : Json) (least greatest : Int) : Except Failure Bool :=
  match v.integer?, v with
  | some n, _ => .ok (decide (least ≤ n ∧ n ≤ greatest))
  | none, .float x => .ok (!x.ltInt least && x.leInt greatest)
  | none, v => .error (orderFailure "<=" "int" v.kindName)

end Json

/-! ## Forms -/

namespace QueueRequest

/-- The version of the interface that forms name unless told otherwise. -/
def defaultVersion : String := "2012-11-05"

/-- A form for an operation. -/
def ofForm (version : String) (operation : Operation) (path resource : String)
    (fields : List (String × String)) (isIdempotent : Bool) : Request :=
  { operation := operation.name
    method := .post
    path
    resource
    headers := .ofList [("Content-Type", "application/x-www-form-urlencoded; charset=utf-8")]
    form := some (.ofList ([("Action", operation.name), ("Version", version)] ++ fields))
    isIdempotent }

/-- A new queue; messages stay hidden for a number of seconds after they are received. -/
def createQueue (version name : String) (hiddenFor : Json) : Except Failure Request := do
  (Name.checkQueue name).mapError .fault
  let fields ←
    match hiddenFor with
    | .null => pure []
    | n =>
      if ← n.isBelow 0 then
        .error (.fault (.invalidArgument "default_visibility_timeout" n "must be >= 0"))
      else
        pure [("Attribute.1.Name", "VisibilityTimeout"), ("Attribute.1.Value", n.display)]
  return ofForm version .createQueue "/" name (("QueueName", name) :: fields) true

/-- The queues whose names begin with a text. -/
def listQueues (version namePrefix : String) : Request :=
  if namePrefix.isEmpty then ofForm version .listQueues "/" "/" [] true
  else ofForm version .listQueues "/" namePrefix [("QueueNamePrefix", namePrefix)] true

/-- The end of a queue. -/
def deleteQueue (version url : String) : Except Failure Request := do
  return ofForm version .deleteQueue (← Name.queuePath url) url [] true

/-- A message to be sent; a second sending would be a second message. -/
def sendMessage (version url body : String) : Except Failure Request := do
  let path ← Name.queuePath url
  if body.isEmpty then
    .error (.fault (.invalidArgument "body" (.text body) "message body must be non-empty"))
  return ofForm version .sendMessage path url [("MessageBody", body)] false

/-- Up to ten messages; a second request could hide a second batch. -/
def receiveMessage (version url : String) (count hiddenFor : Json) : Except Failure Request := do
  let path ← Name.queuePath url
  if !(← count.isBetween 1 10) then
    .error (.fault (.invalidArgument "max_messages" count "must be between 1 and 10"))
  let fields := [("MaxNumberOfMessages", count.display), ("AttributeName.1", "All")]
  let hidden :=
    match hiddenFor with
    | .null => []
    | n => [("VisibilityTimeout", n.display)]
  return ofForm version .receiveMessage path url (fields ++ hidden) false

/-- A received message to be removed. -/
def deleteMessage (version url handle : String) : Except Failure Request := do
  let path ← Name.queuePath url
  if handle.isEmpty then
    .error (.fault (.invalidArgument "receipt_handle" (.text handle) "must be non-empty"))
  return ofForm version .deleteMessage path url [("ReceiptHandle", handle)] true

/-- The fields that name the wanted attributes, numbered from one. -/
def attributeFields (names : List String) : List (String × String) :=
  names.zipIdx.map fun (name, i) => (s!"AttributeName.{i + 1}", name)

/-- The attributes of a queue. -/
def getQueueAttributes (version url : String) (names : List String) :
    Except Failure Request := do
  return ofForm version .getQueueAttributes (← Name.queuePath url) url (attributeFields names) true

end QueueRequest

end CloudClient
