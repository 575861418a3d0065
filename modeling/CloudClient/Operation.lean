/-!
# The operations of the two services

Every call of the storage service and of the queue service has one name. The name opens the text
of each fault of the call and names the kind of the fault itself.
-/

namespace CloudClient

/-- The calls that the storage service and the queue service answer. -/
inductive Operation where
  | createBucket
  | listAllBuckets
  | deleteBucket
  | listBucket
  | put
  | get
  | delete
  | head
  | createQueue
  | listQueues
  | deleteQueue
  | sendMessage
  | receiveMessage
  | deleteMessage
  | getQueueAttributes
  deriving DecidableEq, Repr, Inhabited

namespace Operation

/-- The name of an operation as requests, faults and logs write it. -/
def name : Operation → String
  | createBucket => "CreateBucket"
  | listAllBuckets => "ListAllBuckets"
  | deleteBucket => "DeleteBucket"
  | listBucket => "ListBucket"
  | put => "Put"
  | get => "Get"
  | delete => "Delete"
  | head => "Head"
  | createQueue => "CreateQueue"
  | listQueues => "ListQueues"
  | deleteQueue => "DeleteQueue"
  | sendMessage => "SendMessage"
  | receiveMessage => "ReceiveMessage"
  | deleteMessage => "DeleteMessage"
  | getQueueAttributes => "GetQueueAttributes"

/-- All operations, those of the storage service first. -/
def all : List Operation :=
  [createBucket, listAllBuckets, deleteBucket, listBucket, put, get, delete, head, createQueue,
    listQueues, deleteQueue, sendMessage, receiveMessage, deleteMessage, getQueueAttributes]

/-- Every operation is listed. -/
theorem mem_all (o : Operation) : o ∈ all := by cases o <;> decide

/-- The operation of a given name. -/
def ofName? (s : String) : Option Operation := all.find? fun o => o.name == s

/-- An operation is found by its name. -/
theorem ofName?_name (o : Operation) : ofName? o.name = some o := by cases o <;> decide

end Operation

end CloudClient
