import CloudClient.Calendar.DateTime
import CloudClient.Listing.Page
import CloudClient.Record.Field

/-!
# Records of results

A result as an object: its fields under their names, the name of its kind under `type`, and the
values that are computed from the fields.
-/

namespace CloudClient

/-- An instant in ISO form, if there is one. -/
def Json.ofDate? : Option DateTime → Json
  | some t => text t.isoText
  | none => null

/-- The record of an owner. -/
def Owner.record (o : Owner) : Json :=
  .object [("id", .text o.id), ("display_name", .text o.displayName), ("type", .text "Owner")]

/-- The record of an owner, if there is one. -/
def Owner.record? : Option Owner → Json
  | some o => o.record
  | none => .null

/-- The record of a bucket. -/
def Bucket.record (b : Bucket) : Json :=
  .object [("name", .text b.name), ("creation_date", .ofDate? b.creationDate),
    ("type", .text "Bucket")]

/-- The record of an object in a listing. -/
def ObjectEntry.record (e : ObjectEntry) : Json :=
  .object
    [("key", .text e.key), ("size", .int e.size), ("last_modified", .ofDate? e.lastModified),
      ("etag", .text e.etag), ("storage_class", .text e.storageClass),
      ("owner", Owner.record? e.owner), ("type", .text "ObjectEntry")]

/-- The record of an object's properties. -/
def ObjectInfo.record (i : ObjectInfo) : Json :=
  .object
    [("content_length", .ofInt? i.contentLength), ("content_type", .ofText? i.contentType),
      ("etag", .ofText? i.etag), ("last_modified", .ofDate? i.lastModified),
      ("user_metadata", .ofTexts i.userMetadata), ("version_id", .ofText? i.versionId),
      ("type", .text "ObjectInfo")]

/-- The record of a page. -/
def Page.record (p : Page) : Json :=
  .object
    [("bucket", .text p.bucket), ("prefix", .text p.keyPrefix), ("marker", .text p.marker),
      ("next_marker", .ofText? p.nextMarker), ("delimiter", .ofText? p.delimiter),
      ("max_keys", .ofInt? p.maxKeys), ("is_truncated", .bool p.isTruncated),
      ("entries", .list (p.entries.map ObjectEntry.record)),
      ("common_prefixes", .list (p.commonPrefixes.map .text)),
      ("request_id", .ofText? p.requestId), ("len", .int p.size),
      ("type", .text "ListBucketResult")]

/-- The record of a message. -/
def Message.record (m : Message) : Json :=
  .object
    [("message_id", .text m.messageId), ("receipt_handle", .text m.receiptHandle),
      ("body", .text m.body), ("md5_of_body", .text m.md5OfBody),
      ("attributes", .ofTexts m.attributes), ("type", .text "Message")]

namespace Result

/-- The name of a result's kind. -/
def kindName : Result → String
  | createBucket .. => "CreateBucketResult"
  | listAllBuckets .. => "ListAllBucketsResult"
  | deleteBucket .. => "DeleteBucketResult"
  | listBucket _ => "ListBucketResult"
  | put .. => "PutResult"
  | get .. => "GetResult"
  | delete .. => "DeleteResult"
  | head .. => "HeadResult"
  | createQueue .. => "CreateQueueResult"
  | listQueues .. => "ListQueuesResult"
  | deleteQueue .. => "DeleteQueueResult"
  | sendMessage .. => "SendMessageResult"
  | receiveMessage .. => "ReceiveMessageResult"
  | deleteMessage _ => "DeleteMessageResult"
  | getQueueAttributes .. => "GetQueueAttributesResult"

/-- The fields of a fetched object's content; `liveLength` is the length that a live body
announces. -/
def contentFields (liveLength : Option Int) (c : Content) : List (String × Json) :=
  let (data, live) :=
    match c with
    | .data b => (b, Json.null)
    | .live => ([], .object [("stream_length", .ofInt? liveLength)])
    | .notModified => ([], .null)
  [("data", .object [("hex", .ofBytes data)]), ("stream", live),
    ("not_modified", .bool (decide (c = .notModified)))]

/-- The fields of a result, its kind and request id apart. -/
def fields (liveLength : Option Int) : Result → List (String × Json)
  | createBucket bucket location _ => [("bucket", .text bucket), ("location", .ofText? location)]
  | listAllBuckets owner buckets _ =>
    [("owner", Owner.record? owner), ("buckets", .list (buckets.map Bucket.record))]
  | deleteBucket bucket _ => [("bucket", .text bucket)]
  | listBucket _ => []
  | put bucket key etag versionId _ =>
    [("bucket", .text bucket), ("key", .text key), ("etag", .ofText? etag),
      ("version_id", .ofText? versionId)]
  | get bucket key info content _ =>
    [("bucket", .text bucket), ("key", .text key), ("info", info.record)] ++
      contentFields liveLength content ++ [("etag", .ofText? info.etag)]
  | delete bucket key _ => [("bucket", .text bucket), ("key", .text key)]
  | head bucket key info _ =>
    [("bucket", .text bucket), ("key", .text key), ("info", info.record),
      ("etag", .ofText? info.etag)]
  | createQueue queueUrl _ => [("queue_url", .text queueUrl)]
  | listQueues queueUrls _ => [("queue_urls", .list (queueUrls.map .text))]
  | deleteQueue queueUrl _ => [("queue_url", .text queueUrl)]
  | sendMessage messageId md5 _ => [("message_id", .text messageId), ("md5_of_body", .text md5)]
  | receiveMessage messages _ => [("messages", .list (messages.map Message.record))]
  | deleteMessage _ => []
  | getQueueAttributes attributes _ => [("attributes", .ofTexts attributes)]

/-- The id of the request that a result answers. -/
def requestId : Result → Option String
  | createBucket _ _ id | listAllBuckets _ _ id | deleteBucket _ id | put _ _ _ _ id
  | get _ _ _ _ id | delete _ _ id | head _ _ _ id | createQueue _ id | listQueues _ id
  | deleteQueue _ id | sendMessage _ _ id | receiveMessage _ id | deleteMessage id
  | getQueueAttributes _ id => id
  | listBucket p => p.requestId

/-- The record of a result. -/
def record (liveLength : Option Int) : Result → Json
  | listBucket p => p.record
  | r =>
    .object (r.fields liveLength ++
      [("request_id", .ofText? r.requestId), ("type", .text r.kindName)])

end Result

end CloudClient
