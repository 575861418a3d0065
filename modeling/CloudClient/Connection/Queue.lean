import CloudClient.Connection.Storage
import CloudClient.Request.Queue

/-!
# Connections to the queue service

Calls of the queue service go the same way as those of the storage service. The answer to a sent
message is held against the text that was sent.
-/

namespace CloudClient

/-- A call of the queue service. -/
inductive QueueCall where
  | createQueue (name : String) (hiddenFor : Json)
  | listQueues (namePrefix : String)
  | deleteQueue (url : String)
  | sendMessage (url body : String)
  | receiveMessage (url : String) (count hiddenFor : Json)
  | deleteMessage (url handle : String)
  | getQueueAttributes (url : String) (names : List String)
  deriving Inhabited

namespace QueueCall

/-- The operation of a call. -/
def operation : QueueCall → Operation
  | createQueue .. => .createQueue
  | listQueues _ => .listQueues
  | deleteQueue _ => .deleteQueue
  | sendMessage .. => .sendMessage
  | receiveMessage .. => .receiveMessage
  | deleteMessage .. => .deleteMessage
  | getQueueAttributes .. => .getQueueAttributes

/-- The request of a call, in a version of the service's protocol. -/
def request (version : String) : QueueCall → Except Failure Request
  | createQueue name hiddenFor => QueueRequest.createQueue version name hiddenFor
  | listQueues namePrefix => .ok (QueueRequest.listQueues version namePrefix)
  | deleteQueue url => QueueRequest.deleteQueue version url
  | sendMessage url body => QueueRequest.sendMessage version url body
  | receiveMessage url count hiddenFor => QueueRequest.receiveMessage version url count hiddenFor
  | deleteMessage url handle => QueueRequest.deleteMessage version url handle
  | getQueueAttributes url names => QueueRequest.getQueueAttributes version url names

/-- The text that a call sends. -/
def sentBody? : QueueCall → Option String
  | sendMessage _ body => some body
  | _ => none

/-- The fields that every line in the log carries during a call. -/
def scope (c : QueueCall) (r : Request) : Dict Json :=
  .ofList [("operation", .text c.operation.name), ("queue", .text r.resource)]

/-- What the decoder of the answer has to know. -/
def info (c : QueueCall) (r : Request) : CallInfo :=
  { operation := c.operation, resource := r.resource, bucket := "", key := "",
    sentBody := c.sentBody? }

end QueueCall

/-- A connection to the queue service. -/
structure QueueConnection where
  credentials : Credentials
  endpoint : Endpoint
  policy : RetryPolicy := {}

namespace QueueConnection

/-- A connection as it is shown: its endpoint, and the id of its key. -/
def listing (c : QueueConnection) : String :=
  s!"SQSConnection(endpoint={Text.quoted c.endpoint.url}, " ++
    s!"access_key_id={Text.quoted c.credentials.keyId})"

/-- Makes a call. -/
def perform (c : QueueConnection) (call : QueueCall) : Flight CallEnd :=
  match call.request QueueRequest.defaultVersion with
  | .error e => return .ofFailure e
  | .ok r => do
    match ← Flight.execute c.policy (call.scope r) false (r.signed c.credentials c.endpoint) with
    | .error e => return .ofFailure e
    | .ok a => return .ofAnswer (call.info r) a

end QueueConnection

end CloudClient
