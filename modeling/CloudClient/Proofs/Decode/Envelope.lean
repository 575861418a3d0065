import CloudClient.Proofs.Decode.Checksum
import CloudClient.Proofs.Decode.Listing
import CloudClient.Proofs.Dict

/-!
# Envelopes that are read back

The queue service writes the items of an answer, which are messages, locators or attributes, into a
result within an envelope that ends with the id of the request. Main statement: the answer that
holds such an envelope is decoded as its items, in their order, with the id of the envelope or else
of the headers.
-/

namespace CloudClient.QueueDocument

open Xml Document
open StorageDocument (IsPlainText)

/-! ## Items as fields -/

/-- The field of an attribute. -/
def attributeField (a : String × String) : Field :=
  .group "Attribute" [.text "Name" a.1, .text "Value" a.2]

/-- The fields of a message. -/
def messageFields (m : Message) : List Field :=
  [.text "MessageId" m.messageId, .text "ReceiptHandle" m.receiptHandle,
    .text "MD5OfBody" m.md5OfBody, .text "Body" m.body] ++ m.attributes.entries.map attributeField

/-- The field of a message. -/
def messageField (m : Message) : Field := .group "Message" (messageFields m)

/-- What the service answers to those who ask for messages, for queues or for the attributes of a
queue. -/
inductive Answer where
  | messages (messages : List Message)
  | locators (urls : List String)
  | attributes (attributes : Dict String)

namespace Answer

/-- The operation that is answered. -/
def operation : Answer → Operation
  | messages _ => .receiveMessage
  | locators _ => .listQueues
  | attributes _ => .getQueueAttributes

/-- The items of an answer as they are written. -/
def items : Answer → List Field
  | messages l => l.map messageField
  | locators l => l.map (Field.text "QueueUrl")
  | attributes d => d.entries.map attributeField

/-- An answer as the result of a call. -/
def result (requestId : Option String) : Answer → Result
  | messages l => .receiveMessage l requestId
  | locators l => .listQueues l requestId
  | attributes d => .getQueueAttributes d requestId

end Answer

/-! ## Envelopes -/

/-- How a result without items is written. -/
inductive Vacancy where
  /-- A start tag and an end tag. -/
  | tags
  /-- A single tag. -/
  | mark
  /-- Nothing. -/
  | absent
  deriving DecidableEq, Repr

/-- The field of a result without items, where there is one. -/
def Vacancy.fields (name : String) : Vacancy → List Field
  | tags => [.group name []]
  | mark => [.mark name]
  | absent => []

/-- An envelope: an answer and the id of the request, the heading and the default namespace of the
document, and how it is written that there are no items. -/
structure Envelope where
  answer : Answer
  requestId : String
  heading : Heading
  space : Option String
  vacancy : Vacancy

namespace Envelope

/-- The name of the result. -/
def resultName (e : Envelope) : String := e.answer.operation.name ++ "Result"

/-- The result with the items. -/
def resultFields (e : Envelope) : List Field :=
  if e.answer.items.isEmpty then e.vacancy.fields e.resultName
  else [.group e.resultName e.answer.items]

/-- The field of what is told of the answer. -/
def metadata (e : Envelope) : Field := .group "ResponseMetadata" [.text "RequestId" e.requestId]

/-- The document of an envelope. -/
def document (e : Envelope) : Written :=
  { heading := e.heading, space := e.space, name := e.answer.operation.name ++ "Response"
    fields := e.resultFields ++ [e.metadata] }

end Envelope

/-! ## Envelopes that can be written -/

/-- The texts of attributes are plain. -/
def IsPlainDict (d : Dict String) : Prop := ∀ a ∈ d.entries, IsPlainText a.1 ∧ IsPlainText a.2

instance (d : Dict String) : Decidable (IsPlainDict d) :=
  inferInstanceAs (Decidable (∀ a ∈ d.entries, IsPlainText a.1 ∧ IsPlainText a.2))

/-- The texts of a message are plain, and its checksum is that of the body or is not given. -/
structure IsWritableMessage (m : Message) : Prop where
  messageId : IsPlainText m.messageId
  receiptHandle : IsPlainText m.receiptHandle
  body : IsPlainText m.body
  md5OfBody : m.md5OfBody = md5Text m.body ∨ m.md5OfBody = ""
  attributes : IsPlainDict m.attributes

/-- The items of an answer can be written. -/
def Answer.IsWritable : Answer → Prop
  | messages l => ∀ m ∈ l, IsWritableMessage m
  | locators l => ∀ s ∈ l, IsPlainText s
  | attributes d => IsPlainDict d

/-- The items and the id of an envelope can be written, and its default namespace can be bound. -/
structure Envelope.IsWritable (e : Envelope) : Prop where
  answer : e.answer.IsWritable
  requestId : IsPlainText e.requestId
  space : ∀ s ∈ e.space, Written.IsSpace s

/-! ## Reading what is written -/

/-- Of the fields of attributes, all have their name. -/
@[simp] theorem named_attributeField (name : String) (l : List (String × String)) :
    Field.named name (l.map attributeField) =
      if "Attribute" = name then l.map attributeField else [] :=
  Field.named_map attributeField (fun _ => rfl) name l

/-- The fields of attributes are read as these attributes. -/
theorem attributes_nodes {tag : String} {fields : List Field} {d : Dict String}
    (h : Field.named "Attribute" fields = d.entries.map attributeField) :
    attributes (.element tag [] (Field.nodes fields)) = .ok d := by
  have hentries : ∀ l : List (String × String), ((l.map attributeField).map Field.node).mapM
      (fun a => (do return (← required a "Name", childTextD a "Value") :
        Except DocumentError (String × String))) = .ok l := by
    intro l
    induction l with
    | nil => rfl
    | cons a l ih =>
      have hnode : (attributeField a).node =
          .element "Attribute" [] (Field.nodes [.text "Name" a.1, .text "Value" a.2]) := rfl
      rw [List.map_cons, List.map_cons, List.mapM_cons, ih]
      simp [hnode, required, childTextD, childText?_nodes]
      rfl
  rw [attributes, childrenNamed_nodes, h, hentries]
  exact congrArg Except.ok d.ofList_entries

/-- The field of a message is read as that message. -/
theorem message_messageField (m : Message) : message (messageField m).node = .ok m := by
  have hnode : (messageField m).node = .element "Message" [] (Field.nodes (messageFields m)) := rfl
  have hattributes : attributes (messageField m).node = .ok m.attributes := by
    rw [hnode]
    apply attributes_nodes
    simp [messageFields]
  rw [message, hattributes]
  simp [hnode, required, childTextD, childText?_nodes, messageFields]
  rfl

/-- The fields of messages are read as these messages. -/
theorem mapM_messageField (l : List Message) :
    ((l.map messageField).map Field.node).mapM message = .ok l := by
  induction l with
  | nil => rfl
  | cons m l ih =>
    rw [List.map_cons, List.map_cons, List.mapM_cons, bind_of_eq_ok (message_messageField m),
      bind_of_eq_ok ih]
    rfl

/-- Among messages and what is inside them, no elements but those of the messages have their name.
-/
theorem named_allWithin_messageField (l : List Message) :
    Field.named "Message" (Field.allWithin (l.map messageField)) = l.map messageField := by
  apply Field.named_allWithin_map_eq
  intro m _
  have hinside : Field.named "Message" (Field.allWithin (messageFields m)) = [] := by
    simp [messageFields, Field.named_allWithin_map, Field.allWithin, Field.within, attributeField]
  rw [messageField, Field.within, Field.named_cons, hinside, Field.name_group, if_pos rfl]

namespace Envelope

variable (e : Envelope)

/-- The element of an envelope is that of a field. -/
theorem root_eq : e.document.root =
    (Field.group e.document.name (e.resultFields ++ [e.metadata])).node := rfl

/-- The envelope itself uses no name of a message or of a locator. -/
theorem ne_of_mem_itemNames : ∀ name ∈ ["Message", "QueueUrl"], e.document.name ≠ name ∧
    e.resultName ≠ name ∧ "ResponseMetadata" ≠ name ∧ "RequestId" ≠ name := by
  have hall : ∀ o ∈ Operation.all, ∀ name ∈ ["Message", "QueueUrl"], o.name ++ "Response" ≠ name ∧
      o.name ++ "Result" ≠ name ∧ "ResponseMetadata" ≠ name ∧ "RequestId" ≠ name := by decide
  exact hall e.answer.operation (Operation.mem_all _)

/-- The result has a name of its own. -/
theorem resultName_ne : e.resultName ≠ "ResponseMetadata" ∧ e.resultName ≠ "RequestId" := by
  have hall : ∀ o ∈ Operation.all, o.name ++ "Result" ≠ "ResponseMetadata" ∧
      o.name ++ "Result" ≠ "RequestId" := by decide
  exact hall e.answer.operation (Operation.mem_all _)

/-- No field but the result has the name of the result. -/
theorem named_resultFields {name : String} (h : e.resultName ≠ name) :
    Field.named name e.resultFields = [] := by
  apply Field.named_eq_nil
  intro f hf
  unfold resultFields at hf
  split at hf
  · cases hv : e.vacancy with
    | tags =>
      rw [hv] at hf
      obtain rfl := List.mem_singleton.1 hf
      exact h
    | mark =>
      rw [hv] at hf
      obtain rfl := List.mem_singleton.1 hf
      exact h
    | absent =>
      rw [hv] at hf
      cases hf
  · obtain rfl := List.mem_singleton.1 hf
    exact h

/-- However it is written that there are no items, a name that the envelope does not use itself is
found among the items alone. -/
theorem allNamed_root {name : String} (hname : name ∈ ["Message", "QueueUrl"]) :
    e.document.root.allNamed name =
      (Field.named name (Field.allWithin e.answer.items)).map Field.node := by
  obtain ⟨hroot, hresult, hmetadata, hid⟩ := e.ne_of_mem_itemNames name hname
  have hitems : Field.named name (Field.allWithin e.resultFields) =
      Field.named name (Field.allWithin e.answer.items) := by
    unfold resultFields
    split
    · rename_i hempty
      rw [List.isEmpty_iff.1 hempty]
      cases e.vacancy <;> simp [Vacancy.fields, Field.allWithin, Field.within, Field.name, hresult]
    · simp [Field.allWithin, Field.within, hresult]
  have hbehind : Field.named name (Field.allWithin [e.metadata]) = [] := by
    simp [metadata, Field.allWithin, Field.within, hmetadata, hid]
  rw [root_eq, allNamed_node, Field.within, Field.named_cons, Field.name_group, if_neg hroot,
    Field.allWithin_append, Field.named_append, hitems, hbehind, List.append_nil]

/-- The id of an envelope is that of the request, unless it is empty. -/
theorem requestId_root (r : Response) :
    QueueDocument.requestId r (some e.document.root) =
      (nonEmpty? (some e.requestId)).or r.requestId := by
  have hmetadata : e.document.root.childrenNamed "ResponseMetadata" = [e.metadata.node] := by
    rw [root_eq, Field.node, childrenNamed_nodes, Field.named_append,
      named_resultFields e e.resultName_ne.1]
    rfl
  have hid : e.metadata.node.childrenNamed "RequestId" =
      [(Field.text "RequestId" e.requestId).node] := by
    have hnode : e.metadata.node =
        .element "ResponseMetadata" [] (Field.nodes [.text "RequestId" e.requestId]) := rfl
    rw [hnode, childrenNamed_nodes]
    rfl
  rw [QueueDocument.requestId, Option.bind_some, grandchildren, hmetadata, List.flatMap_singleton,
    hid, List.head?_cons, Option.map_some, textOf_node, Field.value_text]

/-- The result is found with its items, where it is written. -/
theorem descendant?_root : e.document.root.descendant? e.resultName =
    if e.answer.items = [] ∧ e.vacancy = .absent then none
    else some (.element e.resultName [] (Field.nodes e.answer.items)) := by
  have hbehind : Field.named e.resultName (Field.allWithin [e.metadata]) = [] := by
    simp [metadata, Field.allWithin, Field.within, e.resultName_ne.1.symm, e.resultName_ne.2.symm]
  have hwithin : Node.withinAll e.document.root.content =
      (Field.allWithin (e.resultFields ++ [e.metadata])).map Field.node := withinAll_fields _
  rw [descendant?_of_within hwithin, Field.allWithin_append, Field.named_append, hbehind,
    List.append_nil]
  unfold resultFields
  cases hitems : e.answer.items with
  | nil =>
    rw [List.isEmpty_nil, if_pos rfl]
    cases e.vacancy <;> simp [Vacancy.fields, Field.allWithin, Field.within, Field.name, Field.node,
      Field.nodes]
  | cons f l => simp [Field.allWithin, Field.within, Field.node]

/-- The attributes of an envelope are read. -/
theorem attributes_root {d : Dict String} (h : e.answer = .attributes d) :
    attributes ((e.document.root.descendant? "GetQueueAttributesResult").getD e.document.root) =
      .ok d := by
  have hname : e.resultName = "GetQueueAttributesResult" := by
    rw [resultName, h]
    rfl
  have hitems : e.answer.items = d.entries.map attributeField := by
    rw [h]
    rfl
  have hnode : e.document.root =
      .element e.document.name [] (Field.nodes (e.resultFields ++ [e.metadata])) := rfl
  rw [← hname, descendant?_root]
  split
  · -- no result is written, so the attributes are looked for in the envelope, which has none
    rename_i hempty
    have hother : e.resultName ≠ "Attribute" := by
      rw [hname]
      decide
    have hnone : d.entries.map attributeField = [] := hitems.symm.trans hempty.1
    rw [Option.getD_none, hnode]
    apply attributes_nodes
    rw [hnone, Field.named_append, named_resultFields e hother]
    rfl
  · rw [Option.getD_some]
    apply attributes_nodes
    rw [hitems]
    simp

end Envelope

/-! ## Envelopes that can be read -/

/-- A checksum is a plain text. -/
theorem isPlainText_md5Text (s : String) : IsPlainText (md5Text s) := by
  have hplain : ∀ n < 16, isXmlChar (Text.hexDigit n) = true ∧ '\r' ≠ Text.hexDigit n := by decide
  refine ⟨List.all_eq_true.2 fun c hc => ?_, fun hreturn => ?_⟩
  · obtain ⟨n, hn, rfl⟩ := exists_hexDigit_of_mem_md5Text hc
    exact (hplain n hn).1
  · obtain ⟨n, hn, heq⟩ := exists_hexDigit_of_mem_md5Text hreturn
    exact (hplain n hn).2 heq

/-- The fields of attributes can be written. -/
theorem allFit_attributes {d : Dict String} (h : IsPlainDict d) :
    Field.AllFit IsPlainText (d.entries.map attributeField) := by
  rw [Field.allFit_iff, List.forall_mem_map]
  intro a ha
  exact ⟨by decide, ⟨by decide, (h a ha).1⟩, ⟨by decide, (h a ha).2⟩, trivial⟩

/-- The field of a message can be written. -/
theorem fits_messageField {m : Message} (h : IsWritableMessage m) :
    (messageField m).Fits IsPlainText := by
  have hchecksum : IsPlainText m.md5OfBody := by
    rcases h.md5OfBody with hgiven | hempty
    · rw [hgiven]
      exact isPlainText_md5Text m.body
    · rw [hempty]
      decide
  refine ⟨by decide, ?_⟩
  rw [messageFields, Field.allFit_append]
  exact ⟨⟨⟨by decide, h.messageId⟩, ⟨by decide, h.receiptHandle⟩, ⟨by decide, hchecksum⟩,
    ⟨by decide, h.body⟩, trivial⟩, allFit_attributes h.attributes⟩

/-- The items of an answer can be written. -/
theorem allFit_items {a : Answer} (h : a.IsWritable) : Field.AllFit IsPlainText a.items := by
  cases a with
  | messages l =>
    rw [Answer.items, Field.allFit_iff, List.forall_mem_map]
    exact fun m hm => fits_messageField (h m hm)
  | locators l =>
    rw [Answer.items, Field.allFit_iff, List.forall_mem_map]
    exact fun s hs => ⟨by decide, h s hs⟩
  | attributes d => exact allFit_attributes h

namespace Envelope

variable {e : Envelope}

/-- The fields of an envelope can be written. -/
theorem allFit_document (h : e.IsWritable) : Field.AllFit IsPlainText e.document.fields := by
  have hall : ∀ o ∈ Operation.all, isPlainName (o.name ++ "Result").toList = true := by decide
  have hname : isPlainName e.resultName.toList = true := hall _ (Operation.mem_all _)
  have hresult : Field.AllFit IsPlainText e.resultFields := by
    unfold resultFields
    split
    · cases e.vacancy with
      | tags => exact ⟨⟨hname, trivial⟩, trivial⟩
      | mark => exact ⟨hname, trivial⟩
      | absent => trivial
    · exact ⟨⟨hname, allFit_items h.answer⟩, trivial⟩
  rw [document, Field.allFit_append]
  exact ⟨hresult, ⟨by decide, ⟨by decide, h.requestId⟩, trivial⟩, trivial⟩

/-- A document of plain texts is read as its element. -/
theorem root_bytes (hfit : Field.AllFit IsPlainText e.document.fields)
    (hspace : ∀ s ∈ e.space, Written.IsSpace s) : root e.document.bytes = .ok e.document.root := by
  have hall : ∀ o ∈ Operation.all, isPlainName (o.name ++ "Response").toList = true := by decide
  have hsound : e.document.IsSound :=
    ⟨hall _ (Operation.mem_all _), Field.AllFit.imp (fun _ hs => hs.1) hfit, hspace⟩
  rw [root,
    Written.readDocument?_bytes_of_no_return hsound (Field.AllFit.imp (fun _ hs => hs.2) hfit)]

/-- The messages of an envelope are read in their order. -/
theorem mapM_message_root {l : List Message} (ha : e.answer = .messages l) :
    (e.document.root.allNamed "Message").mapM message = .ok l := by
  rw [allNamed_root e (by decide), ha, Answer.items, named_allWithin_messageField,
    mapM_messageField]

/-- The element of an envelope is read as its answer. -/
theorem result_root {c : CallInfo} {r : Response} (hc : c.operation = e.answer.operation)
    (hroot : root r.body = .ok e.document.root) :
    Decode.result c r =
      .ok (.ok (e.answer.result (QueueDocument.requestId r (some e.document.root)))) := by
  cases ha : e.answer with
  | messages l =>
    rw [ha] at hc
    exact result_receiveMessage hc hroot (mapM_message_root ha)
  | locators l =>
    rw [ha] at hc
    have hread : (e.document.root.allNamed "QueueUrl").map textOf = l := by
      have hlocators : Field.named "QueueUrl" (Field.allWithin (l.map (Field.text "QueueUrl"))) =
          l.map (Field.text "QueueUrl") := Field.named_allWithin_map_eq fun _ _ => rfl
      rw [allNamed_root e (by decide), ha, Answer.items, hlocators, List.map_map, List.map_map]
      exact (List.map_congr_left fun s _ => textOf_node (.text "QueueUrl" s)).trans (List.map_id' l)
    have hdocument : listQueues r =
        .ok (.listQueues l (QueueDocument.requestId r (some e.document.root))) := by
      rw [listQueues, bind_of_eq_ok hroot, hread]
      rfl
    simp only [Decode.result, hc, Answer.operation, hdocument]
    rfl
  | attributes d =>
    rw [ha] at hc
    have hdocument : getQueueAttributes r =
        .ok (.getQueueAttributes d (QueueDocument.requestId r (some e.document.root))) := by
      rw [getQueueAttributes, bind_of_eq_ok hroot, bind_of_eq_ok (attributes_root e ha)]
      rfl
    simp only [Decode.result, hc, Answer.operation, hdocument]
    rfl

end Envelope

/-- A checksum that can be written fits its message. -/
theorem isIntact_of_isWritable {m : Message} (h : IsWritableMessage m) :
    Decode.isIntact m = true := by
  rw [Decode.isIntact]
  rcases h.md5OfBody with hgiven | hempty
  · rw [hgiven, lowered_md5Text, beq_self_eq_true, Bool.or_true]
  · rw [hempty]
    rfl

/-- An answer that can be written passes the checks of checksums. -/
theorem checked_result {a : Answer} (h : a.IsWritable) (c : CallInfo) (requestId : Option String) :
    Decode.checked c (a.result requestId) = .ok (a.result requestId) := by
  cases a with
  | messages l =>
    have hnone : l.find? (fun m => !Decode.isIntact m) = none := by
      rw [List.find?_eq_none]
      intro m hm
      rw [isIntact_of_isWritable (h m hm)]
      decide
    rw [Answer.result, Decode.checked, hnone]
  | locators l => rfl
  | attributes d => rfl

end CloudClient.QueueDocument

namespace CloudClient

open Xml Document QueueDocument

/-- **What the queue service writes into an envelope is decoded as it is**: the messages, the
locators or the attributes in their order, also when there are none, with the id of the envelope
unless it is empty. -/
theorem decode_envelope {c : CallInfo} {r : Response} {e : Envelope}
    (hc : c.operation = e.answer.operation) (hok : r.isOk = true) (he : e.IsWritable)
    (hbody : r.body = e.document.bytes) :
    decode c r =
      .ok (.ok (e.answer.result (if e.requestId = "" then r.requestId else some e.requestId))) := by
  have hroot : root r.body = .ok e.document.root := by
    rw [hbody, Envelope.root_bytes (Envelope.allFit_document he) he.space]
  have hid : requestId r (some e.document.root) =
      if e.requestId = "" then r.requestId else some e.requestId := by
    rw [Envelope.requestId_root]
    split
    · rename_i hempty
      rw [hempty]
      rfl
    · rename_i hne
      rw [nonEmpty?_some hne]
      rfl
  have hchanged : ¬(r.status = 304 ∧ c.operation = .get) := by
    rw [hc]
    intro h
    cases ha : e.answer <;> rw [ha] at h <;> cases h.2
  rw [decode, if_neg hchanged, hok, Envelope.result_root hc hroot, hid]
  exact congrArg Except.ok (checked_result he.answer c _)

/-- Two messages: one whose texts hold markup, and one without a checksum. -/
def sampleMessages : List Message :=
  [{ messageId := "m1", receiptHandle := "h&1", body := "<Message><Body>]]>"
     md5OfBody := md5Text "<Message><Body>]]>", attributes := .ofList [("Name", "<Value/>")] },
   { messageId := "m2", receiptHandle := "", body := "été\n" }]

/-- Their envelope in the namespace of the service, with an empty id. -/
def sampleEnvelope : Envelope :=
  { answer := .messages sampleMessages, requestId := "", heading := .version
    space := some "http://queue.amazonaws.com/doc/2009-02-01/", vacancy := .absent }

/-- The messages are decoded from their envelope, and the id is that of the headers. -/
theorem decode_sampleEnvelope :
    decode { operation := .receiveMessage, resource := "http://queue.amazonaws.com/1/jobs" }
      { status := 200, headers := [("X-Amz-Request-Id", "r1")],
        body := sampleEnvelope.document.bytes } =
      .ok (.ok (.receiveMessage sampleMessages (some "r1"))) := by
  have hmessages : ∀ m ∈ sampleMessages, IsWritableMessage m := by
    intro m hm
    rcases List.mem_cons.1 hm with rfl | hm
    · exact ⟨by decide, by decide, by decide, .inl rfl, by decide⟩
    · obtain rfl := List.mem_singleton.1 hm
      exact ⟨by decide, by decide, by decide, .inr rfl, by decide⟩
  have hspace : ∀ s ∈ some "http://queue.amazonaws.com/doc/2009-02-01/", Written.IsSpace s := by
    intro s hs
    obtain rfl := Option.some.inj hs
    exact ⟨by decide, by decide, by decide⟩
  exact decode_envelope (e := sampleEnvelope) rfl rfl ⟨hmessages, by decide, hspace⟩ rfl

end CloudClient
