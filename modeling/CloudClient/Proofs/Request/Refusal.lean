import CloudClient.Connection.Queue
import CloudClient.Proofs.Success

/-!
# What makes no request

Arguments that no request can be made of are refused with a fault. Main statements: whatever the
arguments are, a call of the storage service is refused with such a fault or becomes a request, and
so does a call of the queue service, unless it names a queue by a locator that cannot be taken apart
or is given something else for a number.
-/

namespace CloudClient

/-- A fault refuses an argument, or a stream whose size cannot be found out. -/
def Fault.IsRefusal (f : Fault) : Prop := f.family = .construction ∨ f.family = .sizeUnknown

/-! ## Names -/

namespace Name

/-- A name is refused. -/
theorem failsAs_refuse {kind name reason : String} :
    FailsAs Fault.IsRefusal (refuse kind name reason) :=
  failsAs_error (.inl rfl)

/-- The check of a bucket refuses its name. -/
theorem failsAs_checkBucket (name : String) : FailsAs Fault.IsRefusal (checkBucket name) :=
  .ite failsAs_refuse (.ite failsAs_refuse (.ite failsAs_refuse failsAs_ok))

/-- The check of a key refuses it. -/
theorem failsAs_checkKey (key : String) : FailsAs Fault.IsRefusal (checkKey key) :=
  .ite failsAs_refuse (.ite failsAs_refuse failsAs_ok)

/-- The check of a queue refuses its name. -/
theorem failsAs_checkQueue (name : String) : FailsAs Fault.IsRefusal (checkQueue name) :=
  .ite failsAs_refuse (.ite failsAs_refuse (.ite failsAs_ok failsAs_refuse))

/-- The check of a region refuses it. -/
theorem failsAs_checkRegion (region : String) : FailsAs Fault.IsRefusal (checkRegion region) :=
  .ite failsAs_ok (failsAs_error (.inl rfl))

end Name

/-! ## Calls of the storage service -/

namespace StorageRequest

/-- The checks of an object refuse a name. -/
theorem failsAs_checkObject (bucket key : String) :
    FailsAs Fault.IsRefusal (checkObject bucket key) :=
  .bind (Name.failsAs_checkBucket bucket) fun _ => Name.failsAs_checkKey key

/-- The size of a page is refused when it is no number. -/
theorem failsAs_pageSize? (v : Json) : FailsAs Fault.IsRefusal (pageSize? v) := by
  cases v with
  | null | int n | bool b => exact failsAs_ok
  | float x | text s | list items | object fields => exact failsAs_error (.inl rfl)

/-- A stream that cannot be measured is refused. -/
theorem failsAs_measureFor (s : Stream) (bucket key : String) :
    FailsAs Fault.IsRefusal (s.measureFor bucket key).1 := by
  unfold Stream.measureFor
  split
  · exact failsAs_error (.inr rfl)
  · exact FailsAs.mapError (P := fun _ => True) (fun _ _ => trivial) fun e _ => .inr rfl

/-- A part of a stream is refused when it cannot be measured or does not fit its size. -/
theorem failsAs_streamPart (bucket key : String) (s : Stream) (size : Option SizeHint) :
    FailsAs Fault.IsRefusal (streamPart bucket key s size).1 := by
  have hmeasure := failsAs_measureFor s bucket key
  unfold streamPart
  split
  · split
    · exact failsAs_error (.inl rfl)
    · split
      · exact failsAs_ok
      · split
        · rename_i hrefused
          rw [hrefused] at hmeasure
          exact failsAs_error (hmeasure _ rfl)
        · split
          · exact failsAs_error (.inl rfl)
          · exact failsAs_ok
  · split
    · rename_i hrefused
      rw [hrefused] at hmeasure
      exact failsAs_error (hmeasure _ rfl)
    · exact failsAs_ok

/-- A payload is refused when it is neither bytes nor a stream that can be stored. -/
theorem failsAs_payloadBody (bucket key : String) (size : Option SizeHint) (data : Payload) :
    FailsAs Fault.IsRefusal (payloadBody bucket key size data).1 := by
  cases data with
  | bytes data => exact failsAs_ok
  | stream s => exact .map (failsAs_streamPart bucket key s size)
  | value v => exact failsAs_error (.inl rfl)

/-- Metadata without a name is refused. -/
theorem failsAs_withMetadata (headers : Headers) (entries : List (String × String)) :
    FailsAs Fault.IsRefusal (withMetadata headers entries) := by
  induction entries generalizing headers with
  | nil => exact failsAs_ok
  | cons e rest ih => exact .ite (failsAs_error (.inl rfl)) (ih _)

/-- An object that is to be stored is refused for its names, its payload or its metadata. -/
theorem failsAs_put (bucket key : String) (data : Payload) (contentType : String)
    (size : Option SizeHint) (metadata : Dict String) :
    FailsAs Fault.IsRefusal (put bucket key data contentType size metadata).1 := by
  have hnames := failsAs_checkObject bucket key
  unfold put
  split
  · rename_i hrefused
    rw [hrefused] at hnames
    exact failsAs_error (hnames _ rfl)
  · exact .bind (failsAs_payloadBody bucket key size data) fun body =>
      .bind (failsAs_withMetadata _ _) fun _ => failsAs_ok

end StorageRequest

/-- **Calls of the storage service are refused or become requests.** -/
theorem StorageCall.failsAs_request (call : StorageCall) (region : Option String) :
    FailsAs Fault.IsRefusal (call.request region) := by
  cases call with
  | createBucket bucket =>
    refine .bind (Name.failsAs_checkBucket bucket) fun _ => ?_
    exact .ite failsAs_ok (.bind (Name.failsAs_checkRegion _) fun _ => failsAs_ok)
  | listAllBuckets => exact failsAs_ok
  | deleteBucket bucket => exact .bind (Name.failsAs_checkBucket bucket) fun _ => failsAs_ok
  | listBucket bucket keyPrefix marker maxKeys delimiter =>
    exact .bind (Name.failsAs_checkBucket bucket) fun _ =>
      .bind (StorageRequest.failsAs_pageSize? maxKeys) fun _ => failsAs_ok
  | put bucket key data contentType size metadata =>
    exact StorageRequest.failsAs_put bucket key data contentType size metadata
  | get bucket key oldTag live =>
    refine .bind (StorageRequest.failsAs_checkObject bucket key) fun _ => ?_
    dsimp only
    split
    · exact failsAs_ok
    · exact failsAs_ok
  | delete bucket key | head bucket key =>
    exact .bind (StorageRequest.failsAs_checkObject bucket key) fun _ => failsAs_ok

/-! ## Calls of the queue service -/

namespace QueueCall

/-- The locator by which a call names a queue. -/
def url? : QueueCall → Option String
  | deleteQueue url | sendMessage url _ | receiveMessage url _ _ | deleteMessage url _
  | getQueueAttributes url _ => some url
  | createQueue _ _ | listQueues _ => none

/-- The numbers that a call is given are integers, and a time may be left out; truth values count as
integers. -/
def HasIntegers : QueueCall → Prop
  | createQueue _ hiddenFor => hiddenFor = .null ∨ ∃ n, hiddenFor.integer? = some n
  | receiveMessage _ count hiddenFor =>
    (∃ n, count.integer? = some n) ∧ (hiddenFor = .null ∨ ∃ n, hiddenFor.integer? = some n)
  | _ => True

/-- A call names a queue by a locator that cannot be taken apart. -/
def IsUnreadable (call : QueueCall) (e : UriError) : Prop :=
  ∃ url, call.url? = some url ∧ url ≠ "" ∧ Uri.read url = .error e

/-- A call is refused, or the locator of its queue cannot be taken apart, or something else stands
for a number. -/
inductive Refuses (call : QueueCall) : Failure → Prop where
  | fault {f : Fault} (h : f.IsRefusal) : Refuses call (.fault f)
  | uri {e : UriError} (h : call.IsUnreadable e) : Refuses call (.uri e)
  | foreign {cause : Cause} (h : ¬call.HasIntegers) : Refuses call (.foreign cause)

variable {call : QueueCall} {url : String}

/-- A locator is refused, or it cannot be taken apart. -/
theorem failsAs_queuePath (h : call.url? = some url) :
    FailsAs call.Refuses (Name.queuePath url) := by
  rw [Name.queuePath]
  split
  · exact failsAs_error (.fault (.inl rfl))
  · rename_i hne
    rw [String.isEmpty_iff] at hne
    have hread : FailsAs (fun e => Uri.read url = .error e) (Uri.read url) := fun _ he => he
    refine .bind (hread.mapError fun e he => .uri ⟨url, h, hne, he⟩) fun u => ?_
    split
    · exact failsAs_error (.fault (.inl rfl))
    · exact failsAs_ok

/-- A locator that cannot be taken apart has no path. -/
theorem queuePath_of_unreadable {e : UriError} (hne : url ≠ "") (h : Uri.read url = .error e) :
    Name.queuePath url = .error (.uri e) := by
  rw [Name.queuePath, if_neg (by rwa [String.isEmpty_iff]), h]
  rfl

/-- A value is compared with bounds, unless it is no number. -/
theorem failsAs_isBetween {v : Json} (h : v.integer? = none → ¬call.HasIntegers)
    (least greatest : Int) : FailsAs call.Refuses (v.isBetween least greatest) := by
  unfold Json.isBetween
  split
  · exact failsAs_ok
  · exact failsAs_ok
  · rename_i hnone
    exact failsAs_error (.foreign (h hnone))

/-- The same of a single bound. -/
theorem failsAs_isBelow {v : Json} (h : v.integer? = none → ¬call.HasIntegers) (bound : Int) :
    FailsAs call.Refuses (v.isBelow bound) := by
  unfold Json.isBelow
  split
  · exact failsAs_ok
  · exact failsAs_ok
  · rename_i hnone
    exact failsAs_error (.foreign (h hnone))

/-- **Calls of the queue service are refused or become requests**, unless the locator of their queue
cannot be taken apart or something else stands for a number. -/
theorem failsAs_request (call : QueueCall) (version : String) :
    FailsAs call.Refuses (call.request version) := by
  cases call with
  | createQueue name hiddenFor =>
    refine .bind ((Name.failsAs_checkQueue name).mapError fun f hf => Refuses.fault hf) fun _ => ?_
    dsimp only
    split
    · exact failsAs_ok
    · rename_i hgiven
      refine .bind (failsAs_isBelow (fun hnone => ?_) 0) fun below => ?_
      · rintro (hnull | ⟨n, hn⟩)
        · exact hgiven hnull
        · rw [hnone] at hn
          cases hn
      · split
        · exact failsAs_error (.fault (.inl rfl))
        · exact failsAs_ok
  | listQueues namePrefix => exact failsAs_ok
  | deleteQueue url => exact .bind (failsAs_queuePath rfl) fun path => failsAs_ok
  | sendMessage url body =>
    refine .bind (failsAs_queuePath rfl) fun path => ?_
    dsimp only
    split
    · exact failsAs_error (.fault (.inl rfl))
    · exact failsAs_ok
  | receiveMessage url count hiddenFor =>
    refine .bind (failsAs_queuePath rfl) fun path => ?_
    refine .bind (failsAs_isBetween (fun hnone => ?_) 1 10) fun fits => ?_
    · rintro ⟨⟨n, hn⟩, -⟩
      rw [hnone] at hn
      cases hn
    · dsimp only
      split
      · exact failsAs_error (.fault (.inl rfl))
      · exact failsAs_ok
  | deleteMessage url handle =>
    refine .bind (failsAs_queuePath rfl) fun path => ?_
    dsimp only
    split
    · exact failsAs_error (.fault (.inl rfl))
    · exact failsAs_ok
  | getQueueAttributes url names => exact .bind (failsAs_queuePath rfl) fun path => failsAs_ok

/-- A call whose locator cannot be taken apart fails as reading the locator does. -/
theorem request_of_isUnreadable {e : UriError} (h : call.IsUnreadable e) (version : String) :
    call.request version = .error (.uri e) := by
  obtain ⟨url, hurl, hne, hread⟩ := h
  -- the path of the queue comes first in every such request
  have hfirst : ∀ rest : String → Except Failure Request,
      (Name.queuePath url >>= rest) = .error (.uri e) := by
    intro rest
    rw [queuePath_of_unreadable hne hread]
    rfl
  cases call with
  | createQueue name hiddenFor | listQueues namePrefix => cases hurl
  | deleteQueue _ | sendMessage _ _ | receiveMessage _ _ _ | deleteMessage _ _
  | getQueueAttributes _ _ =>
    cases hurl
    exact hfirst _

end QueueCall

end CloudClient
