import CloudClient.Decode
import CloudClient.Proofs.Xml.Namespace
import CloudClient.Proofs.Xml.Reading

/-!
# Decoding without regard to namespaces

The decoders look elements up by their local names and read their texts; none of them reads an
attribute. Main statement: two documents that have the same local names and texts, in whatever
namespaces, are decoded alike, except that an object that is fetched is the bytes of the body
themselves.
-/

namespace CloudClient

/-! ## Trees without attributes -/

namespace Xml.Node

/-- Nodes lose their attributes one by one. -/
theorem allBare_eq_map (l : List Node) : allBare l = l.map bare := by
  induction l with
  | nil => rfl
  | cons n rest ih => rw [allBare, ih, List.map_cons]

/-- A node keeps its name. -/
@[simp] theorem tag_bare (n : Node) : n.bare.tag = n.tag := by
  cases n <;> rfl

/-- An element stays one. -/
@[simp] theorem isElement_bare (n : Node) : n.bare.isElement = n.isElement := by
  cases n <;> rfl

/-- The content of a node loses its attributes. -/
@[simp] theorem content_bare (n : Node) : n.bare.content = n.content.map bare := by
  cases n with
  | text s => rfl
  | element tag attributes content => exact allBare_eq_map content

/-- The text at the head of some content is the same without attributes. -/
@[simp] theorem headText_map_bare (l : List Node) : headText (l.map bare) = headText l := by
  induction l with
  | nil => rfl
  | cons n rest ih =>
    cases n with
    | text s =>
      show s ++ headText (rest.map bare) = _
      rw [ih]
      rfl
    | element tag attributes content => rfl

/-- A node keeps its text. -/
@[simp] theorem text?_bare (n : Node) : n.bare.text? = n.text? := by
  rw [text?, text?, content_bare, headText_map_bare]

/-- The children of a node lose their attributes. -/
@[simp] theorem children_bare (n : Node) : n.bare.children = n.children.map bare := by
  simp [children, List.filter_map, Function.comp_def]

/-- The children of a name are the same without attributes. -/
@[simp] theorem childrenNamed_bare (n : Node) (tag : String) :
    n.bare.childrenNamed tag = (n.childrenNamed tag).map bare := by
  simp [childrenNamed, List.filter_map, Function.comp_def]

/-- The first child of a name is the same without attributes. -/
@[simp] theorem child?_bare (n : Node) (tag : String) :
    n.bare.child? tag = (n.child? tag).map bare := by
  simp [child?]

mutual

/-- The elements within a node are the same without attributes. -/
@[simp] theorem within_bare : ∀ n : Node, n.bare.within = n.within.map bare
  | text _ => rfl
  | element tag attributes content => by
    rw [bare, within, within, List.map_cons, bare, allBare_eq_map, withinAll_map_bare content]

/-- The elements in some content are the same without attributes. -/
@[simp] theorem withinAll_map_bare : ∀ l : List Node,
    withinAll (l.map bare) = (withinAll l).map bare
  | [] => rfl
  | n :: rest => by
    rw [List.map_cons, withinAll, withinAll, List.map_append, within_bare n,
      withinAll_map_bare rest]

end

/-- The elements of a name are the same without attributes. -/
@[simp] theorem allNamed_bare (n : Node) (tag : String) :
    n.bare.allNamed tag = (n.allNamed tag).map bare := by
  simp [allNamed, List.filter_map, Function.comp_def]

/-- The first element of a name below a node is the same without attributes. -/
@[simp] theorem descendant?_bare (n : Node) (tag : String) :
    n.bare.descendant? tag = (n.descendant? tag).map bare := by
  have htag : (fun e : Node => e.tag == tag) ∘ bare = fun e => e.tag == tag :=
    funext fun e => congrArg (· == tag) (tag_bare e)
  rw [descendant?, descendant?, content_bare, withinAll_map_bare, List.find?_map, htag]

end Xml.Node

open Xml Xml.Node

/-! ## Values -/

namespace Document

/-- The text of an element is no attribute. -/
@[simp] theorem textOf_bare (n : Node) : textOf n.bare = textOf n := by
  rw [textOf, textOf, text?_bare]

/-- The text of a child is read without attributes. -/
@[simp] theorem childText?_bare (n : Node) (tag : String) :
    childText? n.bare tag = childText? n tag := by
  simp [childText?, Function.comp_def]

/-- The text of an element below is read without attributes. -/
@[simp] theorem descendantText?_bare (n : Node) (tag : String) :
    descendantText? n.bare tag = descendantText? n tag := by
  simp [descendantText?, Function.comp_def]

/-- So is the text of a child that may be missing. -/
@[simp] theorem childTextD_bare (n : Node) (tag : String) :
    childTextD n.bare tag = childTextD n tag := by
  rw [childTextD, childTextD, childText?_bare]

/-- The children of children are the same without attributes. -/
@[simp] theorem grandchildren_bare (n : Node) (outer inner : String) :
    grandchildren n.bare outer inner = (grandchildren n outer inner).map bare := by
  simp [grandchildren, List.flatMap_map, List.map_flatMap]

/-- A child that must be there is found or missed without attributes. -/
@[simp] theorem required_bare (n : Node) (tag : String) : required n.bare tag = required n tag := by
  rw [required, required, childText?_bare, tag_bare]

/-- So is an element below that must be there. -/
@[simp] theorem requiredBelow_bare (n : Node) (tag : String) :
    requiredBelow n.bare tag = requiredBelow n tag := by
  rw [requiredBelow, requiredBelow, descendantText?_bare, tag_bare]

/-- The number that a child holds is read without attributes. -/
@[simp] theorem childInt?_bare (n : Node) (tag : String) :
    childInt? n.bare tag = childInt? n tag := by
  rw [childInt?, childInt?, childText?_bare]

end Document

open Document

/-! ## Documents of the storage service -/

namespace StorageDocument

/-- An owner is described without attributes. -/
@[simp] theorem owner_bare (n : Node) : owner n.bare = owner n := by
  simp [owner]

/-- The date that a child holds is read without attributes. -/
@[simp] theorem childDate?_bare (n : Node) (tag : String) :
    childDate? n.bare tag = childDate? n tag := by
  simp [childDate?]

/-- A bucket is described without attributes. -/
@[simp] theorem bucket_bare (n : Node) : bucket n.bare = bucket n := by
  simp [bucket]

/-- An object is described without attributes. -/
@[simp] theorem entry_bare (n : Node) : entry n.bare = entry n := by
  simp [entry, Function.comp_def]

/-- A page is described without attributes. -/
@[simp] theorem page_bare (bucket : String) (requestId : Option String) (n : Node) :
    page bucket requestId n.bare = page bucket requestId n := by
  simp [page, Function.comp_def]

end StorageDocument

/-! ## Documents of the queue service -/

namespace QueueDocument

/-- The id of a request is read without attributes. -/
@[simp] theorem requestId_bare (r : Response) (n : Node) :
    requestId r (some n.bare) = requestId r (some n) := by
  simp [requestId, Function.comp_def]

/-- The attributes of a queue are elements, not attributes. -/
@[simp] theorem attributes_bare (n : Node) : attributes n.bare = attributes n := by
  simp [attributes, Function.comp_def]

/-- A message is described without attributes. -/
@[simp] theorem message_bare (n : Node) : message n.bare = message n := by
  simp [message]

end QueueDocument

/-! ## Bodies that are read alike -/

/-- Two bodies are read as the same tree of local names and texts, or neither is read. -/
structure ReadAlike (d d' : Bytes) : Prop where
  isEmpty : d.isEmpty = d'.isEmpty
  bare : (readDocument? d).map Node.bare = (readDocument? d').map Node.bare

variable {d d' : Bytes} {α : Type}

/-- What reads no attributes reads the same of both roots. -/
theorem ReadAlike.bind_root (h : ReadAlike d d') {f : Node → Except DocumentError α}
    (hf : ∀ n, f n.bare = f n) : (root d' >>= f) = (root d >>= f) := by
  have hbare := h.bare
  rw [root, root]
  cases hd : readDocument? d with
  | none =>
    rw [hd, Option.map_none, eq_comm, Option.map_eq_none_iff] at hbare
    rw [hbare]
  | some n =>
    rw [hd, Option.map_some, eq_comm, Option.map_eq_some_iff] at hbare
    obtain ⟨n', hd', hsame⟩ := hbare
    rw [hd']
    show f n' = f n
    rw [← hf n', hsame, hf n]

/-- The same of roots that may be missing. -/
theorem ReadAlike.bind_optionalRoot (h : ReadAlike d d') (r : Response)
    {f : Option Node → Except DocumentError α} (hf : ∀ n, f (some n.bare) = f (some n)) :
    (QueueDocument.optionalRoot { r with body := d' } >>= f) =
      (QueueDocument.optionalRoot { r with body := d } >>= f) := by
  rw [QueueDocument.optionalRoot, QueueDocument.optionalRoot]
  dsimp only
  rw [h.isEmpty]
  split
  · rfl
  · have hroot := h.bind_root (f := fun n => f (some n)) hf
    cases hd : root d <;> cases hd' : root d'
    all_goals
      rw [hd, hd'] at hroot
      exact hroot

section

variable (r : Response) (h : ReadAlike d d')

include h

/-- The buckets of a caller are the same. -/
theorem listAllBuckets_congr : StorageDocument.listAllBuckets { r with body := d' } =
    StorageDocument.listAllBuckets { r with body := d } :=
  h.bind_root fun n => by simp [Function.comp_def]

/-- A page is the same. -/
theorem listBucket_congr (bucket : String) :
    StorageDocument.listBucket bucket { r with body := d' } =
    StorageDocument.listBucket bucket { r with body := d } :=
  h.bind_root fun n => by simp

/-- A new queue is the same. -/
theorem createQueue_congr : QueueDocument.createQueue { r with body := d' } =
    QueueDocument.createQueue { r with body := d } :=
  h.bind_root fun n => by simp

/-- The locators of queues are the same. -/
theorem listQueues_congr : QueueDocument.listQueues { r with body := d' } =
    QueueDocument.listQueues { r with body := d } :=
  h.bind_root fun n => by simp [Function.comp_def]

/-- The end of a queue is the same. -/
theorem deleteQueue_congr (url : String) : QueueDocument.deleteQueue url { r with body := d' } =
    QueueDocument.deleteQueue url { r with body := d } :=
  h.bind_optionalRoot r fun n => by simp

/-- A sent message is the same. -/
theorem sendMessage_congr : QueueDocument.sendMessage { r with body := d' } =
    QueueDocument.sendMessage { r with body := d } :=
  h.bind_root fun n => by simp

/-- Received messages are the same. -/
theorem receiveMessage_congr : QueueDocument.receiveMessage { r with body := d' } =
    QueueDocument.receiveMessage { r with body := d } :=
  h.bind_root fun n => by simp [Function.comp_def]

/-- The removal of a message is the same. -/
theorem deleteMessage_congr : QueueDocument.deleteMessage { r with body := d' } =
    QueueDocument.deleteMessage { r with body := d } :=
  h.bind_optionalRoot r fun n => by simp

/-- The attributes of a queue are the same. -/
theorem getQueueAttributes_congr : QueueDocument.getQueueAttributes { r with body := d' } =
    QueueDocument.getQueueAttributes { r with body := d } :=
  h.bind_root fun n => by simp

end

/-! ## Answers -/

namespace Decode

/-- The element that describes an error is the same without attributes. -/
@[simp] theorem errorElement?_bare (n : Node) :
    errorElement? n.bare = (errorElement? n).map bare := by
  simp only [errorElement?, tag_bare, descendant?_bare]
  split <;> rfl

/-- The root of an error document has the same names and texts. -/
theorem map_bare_errorRoot? (r : Response) (h : ReadAlike d d') :
    (errorRoot? { r with body := d' }).map bare = (errorRoot? { r with body := d }).map bare := by
  rw [errorRoot?, errorRoot?]
  dsimp only
  rw [h.isEmpty]
  split
  · rfl
  · exact h.bare.symm

/-- The fault of a bad status is the same. -/
theorem errorFault_congr (c : CallInfo) (r : Response) (h : ReadAlike d d') :
    errorFault c { r with body := d' } = errorFault c { r with body := d } := by
  have hroot := map_bare_errorRoot? r h
  cases hd : errorRoot? { r with body := d } with
  | none =>
    rw [hd, Option.map_none, Option.map_eq_none_iff] at hroot
    rw [errorFault, errorFault, hroot, hd]
    rfl
  | some n =>
    rw [hd, Option.map_some, Option.map_eq_some_iff] at hroot
    obtain ⟨n', hd', hsame⟩ := hroot
    have hbelow : ∀ tag, descendantText? n' tag = descendantText? n tag := fun tag => by
      rw [← descendantText?_bare n', hsame, descendantText?_bare]
    have herror : (errorElement? n').map bare = (errorElement? n).map bare := by
      rw [← errorElement?_bare n', hsame, errorElement?_bare]
    have hchild : ∀ tag, (errorElement? n').bind (childText? · tag) =
        (errorElement? n).bind (childText? · tag) := by
      intro tag
      have hbare : ∀ x : Option Node,
          (x.map bare).bind (childText? · tag) = x.bind (childText? · tag) := fun x => by
        cases x <;> simp
      rw [← hbare, herror, hbare]
    rw [errorFault, errorFault, hd, hd']
    simp only [Option.bind_some, hbelow, hchild]
    rfl

/-- The result of a good status is the same, unless an object is fetched. -/
theorem result_congr (c : CallInfo) (r : Response) (h : ReadAlike d d')
    (hget : c.operation ≠ .get) :
    result c { r with body := d' } = result c { r with body := d } := by
  -- what is made of a document is made of its decoded result alone
  have hdocument : ∀ {x x' : Except DocumentError Result}, x' = x →
      (Except.ok (ofDocument c { r with body := d' } x') : Except Failure _) =
        .ok (ofDocument c { r with body := d } x) := by
    rintro x _ rfl
    rfl
  unfold result
  cases hoperation : c.operation with
  | get => exact absurd hoperation hget
  | createBucket | deleteBucket | put | delete | head => rfl
  | listAllBuckets => exact hdocument (listAllBuckets_congr r h)
  | listBucket => exact hdocument (listBucket_congr r h c.bucket)
  | createQueue => exact hdocument (createQueue_congr r h)
  | listQueues => exact hdocument (listQueues_congr r h)
  | deleteQueue => exact hdocument (deleteQueue_congr r h c.resource)
  | sendMessage => exact hdocument (sendMessage_congr r h)
  | receiveMessage => exact hdocument (receiveMessage_congr r h)
  | deleteMessage => exact hdocument (deleteMessage_congr r h)
  | getQueueAttributes => exact hdocument (getQueueAttributes_congr r h)

end Decode

/-- A result with other bytes of an object that was fetched whole. -/
def Result.carrying (data : Bytes) : Result → Result
  | .get bucket key info (.data _) requestId => .get bucket key info (.data data) requestId
  | x => x

/-- The status says what a body is read for; an object that has not changed has none. -/
theorem decode_withBody (c : CallInfo) (r : Response) (d : Bytes) :
    decode c { r with body := d } =
      if r.status = 304 ∧ c.operation = .get then decode c r
      else if !r.isOk then .ok (.error (Decode.errorFault c { r with body := d }))
      else (Decode.result c { r with body := d }).map fun x => x.bind (Decode.checked c) := by
  by_cases hchanged : r.status = 304 ∧ c.operation = .get
  · rw [if_pos hchanged, decode, decode, if_pos hchanged, if_pos hchanged]
    rfl
  · rw [if_neg hchanged, decode, if_neg hchanged]
    rfl

/-- **Bodies that are read alike are decoded alike**, unless an object is fetched. -/
theorem decode_congr (c : CallInfo) (r : Response) (h : ReadAlike d d')
    (hget : ¬(c.operation = .get ∧ r.isOk)) :
    decode c { r with body := d' } = decode c { r with body := d } := by
  rw [decode_withBody c r d', decode_withBody c r d]
  split
  · rfl
  · split
    · rw [Decode.errorFault_congr c r h]
    · rename_i hbad
      have hok : r.isOk = true := by simpa using hbad
      rw [Decode.result_congr c r h fun hoperation => hget ⟨hoperation, hok⟩]

/-- An object that is fetched is the body, whatever it holds. -/
theorem decode_get_carries (c : CallInfo) (r : Response) (hoperation : c.operation = .get)
    (hok : r.isOk) (d d' : Bytes) :
    decode c { r with body := d' } =
      (decode c { r with body := d }).map fun x => x.map (Result.carrying d') := by
  have hchanged : ¬(r.status = 304 ∧ c.operation = .get) := by
    rintro ⟨hstatus, -⟩
    rw [Response.isOk, hstatus] at hok
    cases hok
  have hgood : ¬(!r.isOk) = true := by
    rw [hok]
    exact Bool.false_ne_true
  rw [decode_withBody c r d', decode_withBody c r d, if_neg hchanged, if_neg hgood, if_neg hchanged,
    if_neg hgood, Decode.result, Decode.result, hoperation]
  dsimp only
  rw [Decode.ofHeaders, Decode.ofHeaders]
  cases Header.objectInfo r.headers with
  | ok info => cases r.isLive <;> rfl
  | error e => cases e <;> rfl

/-- **Decoding does not regard namespaces.** Of a document whose elements are put into namespaces,
in any way, a parser delivers a tree in which the namespaces stand in braces, and without them it is
the tree of the local names and the texts of the document. Two documents with the same local names
and texts are decoded to the same for every operation and every status, except that a fetched object
is the bytes of the body, so that its results differ in these bytes and in nothing else. -/
theorem decode_does_not_regard_namespaces {d d' : Bytes} {e e' : Node} (h : element? d = some e)
    (h' : element? d' = some e') (hplaced : e.IsPlaced outerScope)
    (hplaced' : e'.IsPlaced outerScope) (hsame : e.localized = e'.localized) :
    (∃ full full', e.delivered? outerScope = some full ∧ e'.delivered? outerScope = some full' ∧
      readDocument? d = some full.stripped ∧ readDocument? d' = some full'.stripped ∧
      full.stripped.bare = e.localized ∧ full'.stripped.bare = e.localized) ∧
    ∀ (c : CallInfo) (r : Response),
      (¬(c.operation = .get ∧ r.isOk) →
        decode c { r with body := d' } = decode c { r with body := d }) ∧
      (c.operation = .get → r.isOk →
        decode c { r with body := d' } =
          (decode c { r with body := d }).map fun x => x.map (Result.carrying d')) := by
  obtain ⟨full, hfull, hread, hbare⟩ := exists_read_of_isPlaced h hplaced
  obtain ⟨full', hfull', hread', hbare'⟩ := exists_read_of_isPlaced h' hplaced'
  have halike : ReadAlike d d' := by
    refine ⟨?_, ?_⟩
    · rw [isEmpty_of_element? h, isEmpty_of_element? h']
    · rw [hread, hread', Option.map_some, Option.map_some, hbare, hbare', hsame]
  refine ⟨⟨full, full', hfull, hfull', hread, hread', hbare, hbare'.trans hsame.symm⟩, ?_⟩
  intro c r
  exact ⟨decode_congr c r halike, fun hoperation hok => decode_get_carries c r hoperation hok d d'⟩

/-- The element of a written document is put into its default namespace. -/
theorem Xml.Written.isPlaced_element {d : Written} (h : d.IsSound) :
    (Node.element d.unified.name d.unified.attributes (Field.nodes d.unified.fields)).IsPlaced
      outerScope :=
  isPlaced_of_resolve? (resolve?_element h.isPlainName (Field.AllFit.unified h.allFit) h.isSpace)

/-- An error document in a default namespace or in none. -/
def missingKey (space : Option String) : Written :=
  { heading := .bare, space, name := "Error", fields := [.text "Code" "NoSuchKey"] }

/-- The namespace of the storage service. -/
def storageSpace : String := "http://s3.amazonaws.com/doc/2006-03-01/"

/-- The error document can be written in the namespace of the storage service and in none. -/
theorem isSound_missingKey {space : Option String} (h : space = none ∨ space = some storageSpace) :
    (missingKey space).IsSound := by
  refine ⟨show isPlainName "Error".toList = true by decide, ⟨⟨by decide, by decide⟩, trivial⟩, ?_⟩
  rcases h with rfl | rfl
  · rintro _ ⟨⟩
  · rintro _ ⟨⟩
    exact ⟨by decide, by decide, by decide⟩

/-- The error document is decoded to the same fault in the namespace of the storage service and in
none. -/
theorem missingKey_is_decoded_alike :
    ∃ e e', element? (missingKey none).bytes = some e ∧
      element? (missingKey (some storageSpace)).bytes = some e' ∧
      e.IsPlaced outerScope ∧ e'.IsPlaced outerScope ∧ e.localized = e'.localized ∧
      decode { operation := .get, resource := "photos/k" }
          { status := 404, body := (missingKey (some storageSpace)).bytes } =
        decode { operation := .get, resource := "photos/k" }
          { status := 404, body := (missingKey none).bytes } := by
  have hplain := isSound_missingKey (.inl rfl)
  have hspaced := isSound_missingKey (.inr rfl)
  have halike := decode_does_not_regard_namespaces (Written.element?_bytes hplain)
    (Written.element?_bytes hspaced) (Written.isPlaced_element hplain)
    (Written.isPlaced_element hspaced) rfl
  refine ⟨_, _, Written.element?_bytes hplain, Written.element?_bytes hspaced,
    Written.isPlaced_element hplain, Written.isPlaced_element hspaced, rfl, ?_⟩
  exact (halike.2 _ { status := 404 }).1 (by decide)

/-- Fetched as an object, the two documents are different bytes. -/
theorem missingKey_is_fetched_as_written :
    ∃ e e', element? (missingKey none).bytes = some e ∧
      element? (missingKey (some storageSpace)).bytes = some e' ∧
      e.IsPlaced outerScope ∧ e'.IsPlaced outerScope ∧ e.localized = e'.localized ∧
      decode { operation := .get, resource := "photos/k" }
          { status := 200, body := (missingKey (some storageSpace)).bytes } ≠
        decode { operation := .get, resource := "photos/k" }
          { status := 200, body := (missingKey none).bytes } := by
  have hplain := isSound_missingKey (.inl rfl)
  have hspaced := isSound_missingKey (.inr rfl)
  refine ⟨_, _, Written.element?_bytes hplain, Written.element?_bytes hspaced,
    Written.isPlaced_element hplain, Written.isPlaced_element hspaced, rfl, ?_⟩
  intro hsame
  have hfetched : ∀ d : Bytes, decode { operation := .get, resource := "photos/k" }
      { status := 200, body := d } = .ok (.ok (.get "" "" {} (.data d) none)) := fun _ => rfl
  rw [hfetched, hfetched] at hsame
  have hbytes : (missingKey (some storageSpace)).bytes = (missingKey none).bytes := by
    injection hsame with hsame
    injection hsame with hsame
    injection hsame with _ _ _ hcontent
    exact Content.data.inj hcontent
  revert hbytes
  decide

end CloudClient
