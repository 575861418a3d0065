import CloudClient.Connection.Queue
import CloudClient.Proofs.Success
import CloudClient.Proofs.Transport.Rewind

/-!
# Which requests may be sent again

A request says of itself whether sending it twice does harm. Main statements: a request of the
storage service does none unless its body is a stream whose place is not known, a request of the
queue service does none unless it sends or receives messages, and every request that does none goes
back to its start.
-/

namespace CloudClient

namespace Stream

/-- A stream that can be measured moves, and is measured from where it stands. -/
theorem seekable_of_measureFor {s s' : Stream} {bucket key : String} {start length : Nat}
    (h : s.measureFor bucket key = (.ok (start, length), s')) :
    s' = s ∧ s.kind = .seekable ∧ start = s.position := by
  obtain ⟨kind, content, position⟩ := s
  cases kind
  case seekable =>
    cases h
    exact ⟨rfl, rfl, rfl⟩
  all_goals cases h

/-- The position that a stream tells is the one where it stands. -/
theorem eq_of_position? {s : Stream} {start : Nat} (h : s.position? = some start) :
    start = s.position := by
  obtain ⟨kind, content, position⟩ := s
  cases kind
  case seekable | seekFails =>
    cases h
    rfl
  all_goals cases h

end Stream

namespace StorageRequest

/-- The part of a stream whose start is known is one of a stream that moves, from where it stands.
-/
theorem seekable_of_streamPart {bucket key : String} {s : Stream} {size : Option SizeHint}
    {p : StreamPart} {start : Int} (h : (streamPart bucket key s size).1 = .ok p)
    (hstart : p.start = some start) :
    p.stream.kind = .seekable ∧ start = p.stream.position := by
  unfold streamPart at h
  split at h
  · split at h
    · cases h
    · split at h
      · cases h
        cases hstart
      · rename_i hposition
        split at h
        · cases h
        · rename_i hmeasured
          obtain ⟨rfl, hkind, -⟩ := Stream.seekable_of_measureFor hmeasured
          split at h
          · cases h
          · cases h
            cases hstart
            exact ⟨hkind, congrArg Int.ofNat (Stream.eq_of_position? hposition)⟩
  · split at h
    · cases h
    · rename_i hmeasured
      obtain ⟨rfl, hkind, rfl⟩ := Stream.seekable_of_measureFor hmeasured
      cases h
      cases hstart
      exact ⟨hkind, rfl⟩

end StorageRequest

/-- A request is made to be sent once, or it does no harm to send it again and it goes back to its
start. A stream stands where it can be told to go. -/
structure Request.RepeatsUnless (r : Request) (once : Bool) : Prop where
  isIdempotent : r.isIdempotent = !once
  canRewind : once = false →
    (∀ p, r.body = .stream p → Stream.isWord p.stream.position = true) → r.body.CanRewind

/-- A request without a stream that says that it may be repeated. -/
theorem Request.repeatsUnless_false {r : Request} (h : r.isIdempotent = true)
    (hbody : r.body.CanRewind) : r.RepeatsUnless false :=
  ⟨h, fun _ _ => hbody⟩

namespace StorageRequest

/-- The body that stores a stream is a part of it. -/
theorem exists_part_of_payloadBody {bucket key : String} {size : Option SizeHint} {s : Stream}
    {b : Body} (h : (payloadBody bucket key size (.stream s)).1 = .ok b) :
    ∃ p, (streamPart bucket key s size).1 = .ok p ∧ b = .stream p := by
  rw [payloadBody] at h
  dsimp only at h
  cases hp : (streamPart bucket key s size).1 with
  | error f =>
    rw [hp] at h
    cases h
  | ok p =>
    rw [hp] at h
    cases h
    exact ⟨p, rfl, rfl⟩

/-- An object is stored under the body that its payload makes, without a form. -/
theorem body_of_put {bucket key contentType : String} {data : Payload} {size : Option SizeHint}
    {metadata : Dict String} {r : Request}
    (h : (put bucket key data contentType size metadata).1 = .ok r) :
    (payloadBody bucket key size data).1 = .ok r.body ∧ r.isIdempotent = r.body.isReplayable ∧
      r.method = .put ∧ r.form = none := by
  unfold put at h
  split at h
  · cases h
  · obtain ⟨body, hbody, h⟩ := exists_of_bind_eq_ok h
    obtain ⟨headers, -, h⟩ := exists_of_bind_eq_ok h
    cases h
    exact ⟨hbody, rfl, rfl, rfl⟩

/-- **A body that can be stored twice goes back to its start.** -/
theorem repeatsUnless_put {bucket key contentType : String} {data : Payload}
    {size : Option SizeHint} {metadata : Dict String} {r : Request}
    (h : (put bucket key data contentType size metadata).1 = .ok r) :
    r.RepeatsUnless !r.body.isReplayable := by
  obtain ⟨hbody, hidempotent, -⟩ := body_of_put h
  refine ⟨by rw [hidempotent, Bool.not_not], ?_⟩
  intro hreplayable hword
  cases hr : r.body with
  | empty => trivial
  | bytes data => trivial
  | stream p =>
    have hpart : p.stream.kind = .seekable ∧
        ∃ start : Nat, p.start = some (start : Int) ∧ start = p.stream.position := by
      rw [hr] at hbody hreplayable
      obtain ⟨start, hstart⟩ : ∃ start, p.start = some start :=
        Option.isSome_iff_exists.1 (by simpa [Body.isReplayable] using hreplayable)
      cases data with
      | bytes data => cases hbody
      | value v => cases hbody
      | stream s =>
        obtain ⟨p', hp, hpart⟩ := exists_part_of_payloadBody hbody
        cases hpart
        obtain ⟨hkind, rfl⟩ := seekable_of_streamPart hp hstart
        exact ⟨hkind, _, hstart, rfl⟩
    obtain ⟨hkind, start, hstart, rfl⟩ := hpart
    exact ⟨hkind, _, hstart, hword p hr⟩

end StorageRequest

namespace StorageCall

/-- A call whose request is sent once. -/
def isSentOnce (r : Request) : StorageCall → Bool
  | put .. => !r.body.isReplayable
  | _ => false

/-- **Calls of the storage service may be repeated, unless they store what cannot be read again.**
-/
theorem repeatsUnless {call : StorageCall} {region : Option String} {r : Request}
    (h : call.request region = .ok r) : r.RepeatsUnless (call.isSentOnce r) := by
  cases call with
  | put bucket key data contentType size metadata => exact StorageRequest.repeatsUnless_put h
  | listAllBuckets =>
    cases h
    exact Request.repeatsUnless_false rfl trivial
  | createBucket bucket =>
    obtain ⟨_, -, h⟩ := exists_of_bind_eq_ok h
    dsimp only at h
    split at h
    · cases h
      exact Request.repeatsUnless_false rfl trivial
    · obtain ⟨_, -, h⟩ := exists_of_bind_eq_ok h
      cases h
      exact Request.repeatsUnless_false rfl trivial
  | listBucket bucket keyPrefix marker maxKeys delimiter =>
    obtain ⟨_, -, h⟩ := exists_of_bind_eq_ok h
    obtain ⟨_, -, h⟩ := exists_of_bind_eq_ok h
    cases h
    exact Request.repeatsUnless_false rfl trivial
  | get bucket key oldTag live =>
    obtain ⟨_, -, h⟩ := exists_of_bind_eq_ok h
    dsimp only at h
    split at h
    all_goals
      cases h
      exact Request.repeatsUnless_false rfl trivial
  | deleteBucket bucket | delete bucket key | head bucket key =>
    obtain ⟨_, -, h⟩ := exists_of_bind_eq_ok h
    cases h
    exact Request.repeatsUnless_false rfl trivial

end StorageCall

namespace QueueRequest

/-- The names of the fields that forms have besides the operation and the version. -/
def fieldNames : List String :=
  ["QueueName", "Attribute.1.Name", "Attribute.1.Value", "QueueNamePrefix", "MessageBody",
    "MaxNumberOfMessages", "AttributeName.1", "VisibilityTimeout", "ReceiptHandle"]

/-- The name of such a field; the wanted attributes of a queue are numbered. -/
def IsFieldName (name : String) : Prop :=
  name ∈ fieldNames ∨ ∃ i : Nat, name = s!"AttributeName.{i + 1}"

end QueueRequest

namespace QueueCall

/-- A call whose request is sent once: messages would be sent, or hidden, twice. -/
def isSentOnce : QueueCall → Bool
  | sendMessage .. => true
  | receiveMessage .. => true
  | _ => false

/-- **Calls of the queue service send forms**, whose fields are known and which say whether they may
be repeated. -/
theorem exists_form {call : QueueCall} {version : String} {r : Request}
    (h : call.request version = .ok r) :
    ∃ operation path resource fields, (∀ p ∈ fields, QueueRequest.IsFieldName p.1) ∧
      r = QueueRequest.ofForm version operation path resource fields !call.isSentOnce := by
  have hknown : ∀ fields : List (String × String),
      (fields.all fun p => QueueRequest.fieldNames.contains p.1) = true →
        ∀ p ∈ fields, QueueRequest.IsFieldName p.1 := by
    intro fields hall p hp
    exact .inl (List.contains_iff_mem.1 (List.all_eq_true.1 hall p hp))
  cases call with
  | createQueue name hiddenFor =>
    obtain ⟨_, -, h⟩ := exists_of_bind_eq_ok h
    dsimp only at h
    split at h
    · cases h
      exact ⟨_, _, _, _, hknown _ rfl, rfl⟩
    · obtain ⟨_, -, h⟩ := exists_of_bind_eq_ok h
      split at h
      · cases h
      · cases h
        exact ⟨_, _, _, _, hknown _ rfl, rfl⟩
  | listQueues namePrefix =>
    cases h
    rw [QueueRequest.listQueues]
    split
    · exact ⟨_, _, _, _, hknown _ rfl, rfl⟩
    · exact ⟨_, _, _, _, hknown _ rfl, rfl⟩
  | sendMessage url body =>
    obtain ⟨_, -, h⟩ := exists_of_bind_eq_ok h
    dsimp only at h
    split at h
    · cases h
    · cases h
      exact ⟨_, _, _, _, hknown _ rfl, rfl⟩
  | receiveMessage url count hiddenFor =>
    obtain ⟨_, -, h⟩ := exists_of_bind_eq_ok h
    obtain ⟨_, -, h⟩ := exists_of_bind_eq_ok h
    dsimp only at h
    split at h
    · cases h
    · cases h
      refine ⟨_, _, _, _, hknown _ ?_, rfl⟩
      cases hiddenFor <;> rfl
  | deleteMessage url handle =>
    obtain ⟨_, -, h⟩ := exists_of_bind_eq_ok h
    dsimp only at h
    split at h
    · cases h
    · cases h
      exact ⟨_, _, _, _, hknown _ rfl, rfl⟩
  | deleteQueue url =>
    obtain ⟨_, -, h⟩ := exists_of_bind_eq_ok h
    cases h
    exact ⟨_, _, _, _, hknown _ rfl, rfl⟩
  | getQueueAttributes url names =>
    obtain ⟨_, -, h⟩ := exists_of_bind_eq_ok h
    cases h
    refine ⟨_, _, _, _, ?_, rfl⟩
    intro p hp
    obtain ⟨⟨name, i⟩, -, rfl⟩ := List.mem_map.1 hp
    exact .inr ⟨i, rfl⟩

/-- **Calls of the queue service may be repeated, unless they send or receive messages.** -/
theorem repeatsUnless {call : QueueCall} {version : String} {r : Request}
    (h : call.request version = .ok r) : r.RepeatsUnless call.isSentOnce := by
  obtain ⟨operation, path, resource, fields, -, rfl⟩ := exists_form h
  exact ⟨rfl, fun _ _ => trivial⟩

end QueueCall

end CloudClient
