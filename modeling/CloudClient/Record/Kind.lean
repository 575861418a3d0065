import CloudClient.Failure
import CloudClient.Record.Field

/-!
# Kinds of records

A record of a result has the fields of its kind, in their order. Some of them must be given, the
others have a default. A kind may add what is computed from its fields. Main statement: a record
that is made of the fields that must be given alone has the defaults of all others.
-/

namespace CloudClient

/-- What a kind computes from its fields. -/
inductive Computed where
  | nothing
  /-- The number of entries and common groups. -/
  | size
  /-- The entity tag of the object's properties. -/
  | tag
  deriving DecidableEq, Repr, Inhabited

/-- A kind of record: the fields that must be given, the fields with a default, and what is
computed. -/
structure RecordKind where
  name : String
  required : List String := []
  optional : List (String × Json) := []
  computed : Computed := .nothing
  deriving Inhabited

namespace RecordKind

/-- An empty text. -/
def noText : Json := .text ""

/-- The id of a request, which every result has. -/
def requestId : String × Json := ("request_id", .null)

/-- The kinds of records. -/
def all : List RecordKind :=
  [{ name := "Owner", required := ["id"], optional := [("display_name", noText)] },
    { name := "Bucket", required := ["name"], optional := [("creation_date", .null)] },
    { name := "ObjectEntry", required := ["key", "size"]
      optional := [("last_modified", .null), ("etag", noText), ("storage_class", noText),
        ("owner", .null)] },
    { name := "ObjectInfo"
      optional := [("content_length", .null), ("content_type", .null), ("etag", .null),
        ("last_modified", .null), ("user_metadata", .object []), ("version_id", .null)] },
    { name := "CreateBucketResult", required := ["bucket"]
      optional := [("location", .null), requestId] },
    { name := "ListAllBucketsResult", required := ["owner"]
      optional := [("buckets", .list []), requestId] },
    { name := "DeleteBucketResult", required := ["bucket"], optional := [requestId] },
    { name := "ListBucketResult", required := ["bucket"]
      optional := [("prefix", noText), ("marker", noText), ("next_marker", .null),
        ("delimiter", .null), ("max_keys", .null), ("is_truncated", .bool false),
        ("entries", .list []), ("common_prefixes", .list []), requestId]
      computed := .size },
    { name := "PutResult", required := ["bucket", "key"]
      optional := [("etag", .null), ("version_id", .null), requestId] },
    { name := "GetResult", required := ["bucket", "key", "info"]
      optional := [("data", .object [("hex", noText)]), ("stream", .null),
        ("not_modified", .bool false), requestId]
      computed := .tag },
    { name := "HeadResult", required := ["bucket", "key", "info"], optional := [requestId]
      computed := .tag },
    { name := "DeleteResult", required := ["bucket", "key"], optional := [requestId] },
    { name := "CreateQueueResult", required := ["queue_url"], optional := [requestId] },
    { name := "ListQueuesResult", optional := [("queue_urls", .list []), requestId] },
    { name := "DeleteQueueResult", required := ["queue_url"], optional := [requestId] },
    { name := "SendMessageResult", required := ["message_id", "md5_of_body"]
      optional := [requestId] },
    { name := "Message", required := ["message_id", "receipt_handle", "body"]
      optional := [("md5_of_body", noText), ("attributes", .object [])] },
    { name := "ReceiveMessageResult", optional := [("messages", .list []), requestId] },
    { name := "DeleteMessageResult", optional := [requestId] },
    { name := "GetQueueAttributesResult", optional := [("attributes", .object []), requestId] }]

/-- The arguments of a record of a kind. -/
def parameters (k : RecordKind) : Parameters :=
  { call := k.name ++ ".__init__", required := k.required, optional := k.optional.map (·.1) }

/-- The value of a field. -/
def fieldOf (args : Dict Json) (name : String) (default : Json) : String × Json :=
  (name, (args.get? name).getD default)

/-- The fields of a record. -/
def fields (k : RecordKind) (args : Dict Json) : List (String × Json) :=
  k.required.map (fieldOf args · .null) ++ k.optional.map fun (name, d) => fieldOf args name d

/-- The number of parts of a value. -/
def partsOf (v : Json) : Except Failure Nat :=
  match v with
  | .list l => .ok l.length
  | .object fs => .ok fs.length
  | .text s => .ok s.length
  | v => .error (.foreign ⟨"TypeError", s!"object of type '{v.kindName}' has no len()"⟩)

/-- What a kind computes from the fields of a record. Properties are no loose value, so that a tag
cannot be taken from one. -/
def computedFields (k : RecordKind) (fields : List (String × Json)) :
    Except Failure (List (String × Json)) :=
  match k.computed with
  | .nothing => .ok []
  | .size => do
    let entries ← partsOf ((fields.lookup "entries").getD .null)
    let groups ← partsOf ((fields.lookup "common_prefixes").getD .null)
    return [("len", .int (entries + groups : Nat))]
  | .tag =>
    let info := (fields.lookup "info").getD .null
    .error (.foreign ⟨"AttributeError", s!"'{info.kindName}' object has no attribute 'etag'"⟩)

/-- Makes a record of a kind. -/
def make (k : RecordKind) (args : Dict Json) : Except Failure Json := do
  (k.parameters.check args.keys).mapError .argument
  let fields := k.fields args
  let computed ← k.computedFields fields
  return (Json.object (fields ++ computed ++ [("type", .text k.name)])).fixed

/-- Without arguments a record has the defaults of its fields. -/
theorem fields_empty (k : RecordKind) (h : k.required = []) : k.fields .empty = k.optional := by
  have hf (name : String) (d : Json) : fieldOf .empty name d = (name, d) := rfl
  simp [fields, h, hf]

end RecordKind

/-- Makes a record of a kind that is known by its name. -/
def Json.ofKind (name : String) (args : Dict Json) : Except Failure Json :=
  match RecordKind.all.find? (·.name == name) with
  | some k => k.make args
  | none => .error (.foreign ⟨"AttributeError", s!"no kind of record has the name '{name}'"⟩)

end CloudClient
