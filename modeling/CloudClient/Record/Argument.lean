import CloudClient.Failure

/-!
# Arguments of calls

Calls are made of arguments under names. A call knows which of them it needs and which it takes
besides, and refuses any other. The maker of requests of a service and a connection to it take
almost the same arguments. Main statement: no call refuses just the arguments that it needs.
-/

namespace CloudClient

/-- What a call is made to: the maker of requests of a service, or a connection to it. -/
inductive CallTarget where
  | builder
  | connection
  deriving DecidableEq, Repr, Inhabited

namespace CallTarget

/-- The name of a target of the storage service. -/
def storageName : CallTarget → String
  | builder => "S3RequestBuilder"
  | connection => "S3Connection"

/-- The name of a target of the queue service. -/
def queueName : CallTarget → String
  | builder => "SQSRequestBuilder"
  | connection => "SQSConnection"

/-- Names that only the maker of requests takes, or those that only a connection takes. -/
def pick (t : CallTarget) (ofBuilder ofConnection : List String) : List String :=
  match t with
  | builder => ofBuilder
  | connection => ofConnection

end CallTarget

/-- A call: its name, the arguments that it needs, and those that it takes besides. -/
structure CallForm where
  name : String
  required : List String := []
  optional : List String := []
  deriving DecidableEq, Repr, Inhabited

namespace CallForm

/-- The calls of the storage service. -/
def storage (t : CallTarget) : List CallForm :=
  [{ name := "create_bucket", required := ["bucket"], optional := t.pick ["region"] [] },
    { name := "list_all_buckets" },
    { name := "delete_bucket", required := ["bucket"] },
    { name := "list_bucket", required := ["bucket"]
      optional := ["prefix", "marker", "max_keys", "delimiter"] },
    { name := "put", required := ["bucket", "key", "data"]
      optional := ["content_type", "size", "metadata"] },
    { name := "get", required := ["bucket", "key"]
      optional := "old_etag" :: t.pick [] ["stream"] },
    { name := "delete", required := ["bucket", "key"] },
    { name := "head", required := ["bucket", "key"] }]

/-- The walk over a listing, which only a connection makes. -/
def walk : CallForm :=
  { name := "iter_bucket", required := ["bucket"]
    optional := ["prefix", "marker", "max_keys", "delimiter", "limit"] }

/-- The calls of the queue service. -/
def queue : List CallForm :=
  [{ name := "create_queue", required := ["name"], optional := ["default_visibility_timeout"] },
    { name := "list_queues", optional := ["prefix"] },
    { name := "delete_queue", required := ["queue_url"] },
    { name := "send_message", required := ["queue_url", "body"] },
    { name := "receive_message", required := ["queue_url"]
      optional := ["max_messages", "visibility_timeout"] },
    { name := "delete_message", required := ["queue_url", "receipt_handle"] },
    { name := "get_queue_attributes", required := ["queue_url"], optional := ["names"] }]

/-- The arguments of a call that is made to an owner. -/
def parameters (f : CallForm) (owner : String) : Parameters :=
  { call := s!"{owner}.{f.name}", required := f.required, optional := f.optional }

/-- An owner has a call of the name among its own, and the call takes these arguments. -/
def check (forms : List CallForm) (owner name : String) (given : List String) :
    Except Failure Unit :=
  match forms.find? (·.name == name) with
  | some f => ((f.parameters owner).check given).mapError .argument
  | none => .error (.foreign ⟨"AttributeError", s!"'{owner}' object has no attribute '{name}'"⟩)

/-- Arguments that are just those that are needed fit, if no name among them is taken. -/
theorem check_required (p : Parameters) (h : p.receiver ∉ p.required) :
    p.check p.required = .ok () := by
  have hmissing : p.required.filter (fun name => !p.required.contains name) = [] := by
    simp
  have hrefusal : p.required.findSome? p.refusal? = none := by
    rw [List.findSome?_eq_none_iff]
    intro name hname
    have hreceiver : name ≠ p.receiver := fun heq => h (heq ▸ hname)
    simp [Parameters.refusal?, hreceiver, hname]
  rw [Parameters.check, hrefusal, hmissing]

/-- No call of the storage service refuses the arguments that it needs. -/
theorem check_storage (t : CallTarget) {f : CallForm} (hf : f ∈ storage t) (owner : String) :
    (f.parameters owner).check f.required = .ok () := by
  have hself : ∀ g ∈ storage t, "self" ∉ g.required := by cases t <;> decide
  exact check_required (f.parameters owner) (hself f hf)

/-- No call of the queue service refuses the arguments that it needs. -/
theorem check_queue {f : CallForm} (hf : f ∈ queue) (owner : String) :
    (f.parameters owner).check f.required = .ok () := by
  have hself : ∀ g ∈ queue, "self" ∉ g.required := by decide
  exact check_required (f.parameters owner) (hself f hf)

end CallForm

end CloudClient
