import CloudClient.Calendar.IsoDate
import CloudClient.Decode.Document
import CloudClient.Response
import CloudClient.Result

/-!
# Documents of the storage service

The storage service answers listings as documents: all buckets of a caller, or a page of the
objects of a bucket.
-/

namespace CloudClient.StorageDocument

open Xml Document

/-- The owner that an element describes. -/
def owner (n : Node) : Owner :=
  { id := childTextD n "ID", displayName := childTextD n "DisplayName" }

/-- The date that a child holds, if it can be read as one. -/
def childDate? (n : Node) (tag : String) : Option DateTime :=
  (nonEmpty? (childText? n tag)).bind IsoDate.read?

/-- The bucket that an element describes. -/
def bucket (n : Node) : Except DocumentError Bucket := do
  return { name := ← required n "Name", creationDate := childDate? n "CreationDate" }

/-- All buckets of a caller. -/
def listAllBuckets (r : Response) : Except DocumentError Result := do
  let root ← root r.body
  let buckets ← (grandchildren root "Buckets" "Bucket").mapM bucket
  return .listAllBuckets ((root.child? "Owner").map owner) buckets r.requestId

/-- The object that an element describes. -/
def entry (n : Node) : Except DocumentError ObjectEntry := do
  let key ← required n "Key"
  let size ← childInt? n "Size"
  return {
    key
    size := size.getD 0
    lastModified := childDate? n "LastModified"
    etag := childTextD n "ETag"
    storageClass := childTextD n "StorageClass"
    owner := (n.child? "Owner").map owner }

/-- The name of the root of a page. -/
def pageRoot : String := "ListBucketResult"

/-- The page that a root describes. A page that does not name its bucket is of the bucket that
was asked for. -/
def page (bucket : String) (requestId : Option String) (root : Node) :
    Except DocumentError Page := do
  if root.tag != pageRoot then .error (.unexpectedRoot pageRoot root.tag)
  let entries ← (root.childrenNamed "Contents").mapM entry
  let maxKeys ← childInt? root "MaxKeys"
  return {
    bucket := (nonEmpty? (childText? root "Name")).getD bucket
    keyPrefix := childTextD root "Prefix"
    marker := childTextD root "Marker"
    nextMarker := nonEmpty? (childText? root "NextMarker")
    delimiter := nonEmpty? (childText? root "Delimiter")
    maxKeys
    isTruncated := isTrue (childTextD root "IsTruncated")
    entries
    commonPrefixes := (root.childrenNamed "CommonPrefixes").map (childTextD · "Prefix")
    requestId }

/-- A page of the objects of a bucket. -/
def listBucket (bucket : String) (r : Response) : Except DocumentError Result := do
  return .listBucket (← page bucket r.requestId (← root r.body))

end CloudClient.StorageDocument
