import CloudClient.Calendar.DateTime
import CloudClient.Dict
import CloudClient.Text.Utf8

/-!
# Results

What a call of each operation answers when it succeeds. The names and the values are those that
the service reports; a field that the service leaves out has a default.
-/

namespace CloudClient

/-! ## Storage -/

/-- The owner of a bucket or of an object. -/
structure Owner where
  id : String
  displayName : String := ""
  deriving DecidableEq, Repr, Inhabited

/-- A bucket and the time of its creation. -/
structure Bucket where
  name : String
  creationDate : Option DateTime := none
  deriving DecidableEq, Inhabited

/-- An object in a listing. -/
structure ObjectEntry where
  key : String
  size : Int
  lastModified : Option DateTime := none
  etag : String := ""
  storageClass : String := ""
  owner : Option Owner := none
  deriving DecidableEq, Inhabited

/-- The properties of an object that headers tell. -/
structure ObjectInfo where
  contentLength : Option Int := none
  contentType : Option String := none
  etag : Option String := none
  lastModified : Option DateTime := none
  userMetadata : Dict String := .empty
  versionId : Option String := none
  deriving DecidableEq, Inhabited

/-- One page of a listing: the objects, and the common beginnings of the keys that are grouped.
The next marker is there only when a delimiter was given and more follows. -/
structure Page where
  bucket : String
  keyPrefix : String := ""
  marker : String := ""
  nextMarker : Option String := none
  delimiter : Option String := none
  maxKeys : Option Int := none
  isTruncated : Bool := false
  entries : List ObjectEntry := []
  commonPrefixes : List String := []
  requestId : Option String := none
  deriving DecidableEq, Inhabited

/-- The content of a fetched object. -/
inductive Content where
  /-- All bytes. -/
  | data (bytes : Bytes)
  /-- A body that is still to be read. -/
  | live
  /-- Nothing, because the object has not changed. -/
  | notModified
  deriving DecidableEq, Inhabited

/-! ## Queues -/

/-- A received message. -/
structure Message where
  messageId : String
  receiptHandle : String
  body : String
  md5OfBody : String := ""
  attributes : Dict String := .empty
  deriving DecidableEq, Inhabited

/-! ## All results -/

/-- The result of a call. -/
inductive Result where
  | createBucket (bucket : String) (location requestId : Option String)
  | listAllBuckets (owner : Option Owner) (buckets : List Bucket) (requestId : Option String)
  | deleteBucket (bucket : String) (requestId : Option String)
  | listBucket (page : Page)
  | put (bucket key : String) (etag versionId requestId : Option String)
  | get (bucket key : String) (info : ObjectInfo) (content : Content) (requestId : Option String)
  | delete (bucket key : String) (requestId : Option String)
  | head (bucket key : String) (info : ObjectInfo) (requestId : Option String)
  | createQueue (queueUrl : String) (requestId : Option String)
  | listQueues (queueUrls : List String) (requestId : Option String)
  | deleteQueue (queueUrl : String) (requestId : Option String)
  | sendMessage (messageId md5OfBody : String) (requestId : Option String)
  | receiveMessage (messages : List Message) (requestId : Option String)
  | deleteMessage (requestId : Option String)
  | getQueueAttributes (attributes : Dict String) (requestId : Option String)
  deriving DecidableEq, Inhabited

end CloudClient
