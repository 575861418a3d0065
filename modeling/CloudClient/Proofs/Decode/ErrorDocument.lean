import CloudClient.Decode
import CloudClient.Proofs.Decode.ErrorCode

/-!
# Error documents

The storage service describes an error in the root of a document, the queue service in an element
inside the root. Main statement: the code that is found among the bytes of such a document is the
code of the fault that is read from its elements, so the two agree on what may be tried again.
-/

namespace CloudClient

open Xml Document

/-! ## Documents of both services -/

/-- Where a document describes its error. -/
inductive ErrorShape where
  /-- In its root. -/
  | storage
  /-- In an element of its root, which stands between other fields. -/
  | queue (ahead behind : List Field)
  deriving Repr, Inhabited

namespace ErrorShape

/-- The fields of the root in front of the error. -/
def ahead : ErrorShape → List Field
  | storage => []
  | queue ahead _ => ahead

/-- The fields of the root behind the error. -/
def behind : ErrorShape → List Field
  | storage => []
  | queue _ behind => behind

/-- The name of the root. -/
def rootName : ErrorShape → String
  | storage => "Error"
  | queue _ _ => "ErrorResponse"

/-- The fields of the root, given those of the error. -/
def rootFields (error : List Field) : ErrorShape → List Field
  | storage => error
  | queue ahead behind => ahead ++ .group "Error" error :: behind

/-- The names of roots are plain, and are not that of a code. -/
theorem isPlainName_rootName (s : ErrorShape) :
    isPlainName s.rootName.toList = true ∧ s.rootName ≠ "Code" := by
  cases s with
  | storage => decide
  | queue ahead behind =>
    show isPlainName "ErrorResponse".toList = true ∧ "ErrorResponse" ≠ "Code"
    decide

end ErrorShape

/-- A document that describes an error: its heading and its default namespace, its shape, the code,
and the fields of the error around the code. -/
structure ErrorDocument where
  heading : Heading := .bare
  space : Option String := none
  shape : ErrorShape
  before : List Field := []
  code : String
  after : List Field := []
  deriving Repr, Inhabited

namespace ErrorDocument

variable (d : ErrorDocument)

/-- The fields of the error. -/
def errorFields : List Field := d.before ++ .text "Code" d.code :: d.after

/-- The fields that hold the texts of the document, in their order. -/
def leaves : List Field := d.shape.ahead ++ (d.errorFields ++ d.shape.behind)

/-- The document as it is written. -/
def written : Written :=
  { heading := d.heading, space := d.space, name := d.shape.rootName
    fields := d.shape.rootFields d.errorFields }

/-- The first id of a request in the document, as it is read. -/
def requestId? : Option String :=
  (Field.named "RequestId" d.leaves).head?.map fun f => unifyText f.value

/-- The code is a word, the other fields hold texts that XML allows, no field in front of the code
is a code, and none in front of the error is an error. -/
structure IsSound : Prop where
  code : Response.IsWord d.code
  isLeaf : ∀ f ∈ d.leaves, f.IsLeaf
  allFit : Field.AllFit IsXmlText d.leaves
  beforeCode : ∀ f ∈ d.shape.ahead ++ d.before, f.name ≠ "Code"
  beforeError : ∀ f ∈ d.shape.ahead, f.name ≠ "Error"
  isSpace : ∀ s ∈ d.space, Written.IsSpace s

variable {d}

/-! ## The code among the bytes -/

/-- The code is found in the fields of the error. -/
theorem findCode?_errorFields (h : d.IsSound) (t : List Char) :
    Response.findCode? (Utf8.encode (Field.writeAll d.errorFields ++ t)) =
      some (Utf8.encode d.code.toList) := by
  have hleaf : ∀ f ∈ d.before, f.IsLeaf :=
    fun f hf => h.isLeaf f (by simp [leaves, errorFields, hf])
  have hfit : Field.AllFit IsXmlText d.before := by
    rw [Field.allFit_iff]
    exact fun f hf => Field.allFit_iff.1 h.allFit f (by simp [leaves, errorFields, hf])
  have hne : ∀ f ∈ d.before, f.name ≠ "Code" := fun f hf => h.beforeCode f (by simp [hf])
  rw [errorFields, Field.writeAll_append, List.append_assoc,
    Response.findCode?_writeAll hleaf hfit hne, Field.writeAll, List.append_assoc,
    Response.findCode?_code h.code]

/-- **The code is found among the bytes of the document.** -/
theorem findCode?_bytes (h : d.IsSound) :
    Response.findCode? d.written.bytes = some (Utf8.encode d.code.toList) := by
  have hname := d.shape.isPlainName_rootName
  rw [Written.bytes, Written.element, List.append_assoc, Response.findCode?_heading,
    Response.findCode?_rootTag hname.1 hname.2]
  rcases d with ⟨heading, space, _ | ⟨ahead, behind⟩, before, code, after⟩
  case storage => exact findCode?_errorFields h _
  case queue =>
    have hleaf : ∀ f ∈ ahead, f.IsLeaf := fun f hf => h.isLeaf f (List.mem_append_left _ hf)
    have hfit : Field.AllFit IsXmlText ahead := (Field.allFit_append.1 h.allFit).1
    have hne : ∀ f ∈ ahead, f.name ≠ "Code" := fun f hf =>
      h.beforeCode f (List.mem_append_left _ hf)
    show Response.findCode?
        (Utf8.encode (Field.writeAll (ahead ++ .group "Error" _ :: behind) ++ _)) = _
    rw [Field.writeAll_append, List.append_assoc, Response.findCode?_writeAll hleaf hfit hne,
      Field.writeAll, Field.write, List.append_assoc, List.append_assoc, List.append_assoc,
      Response.findCode?_startTag rfl (by decide)]
    exact findCode?_errorFields h _

/-! ## The fault of the elements -/

/-- What is written is sound. -/
theorem isSound_written (h : d.IsSound) : d.written.IsSound := by
  refine ⟨d.shape.isPlainName_rootName.1, ?_, h.isSpace⟩
  have hfit := h.allFit
  rcases d with ⟨heading, space, _ | ⟨ahead, behind⟩, before, code, after⟩
  case storage =>
    rw [leaves, Field.allFit_append, Field.allFit_append] at hfit
    exact hfit.2.1
  case queue =>
    rw [leaves, Field.allFit_append, Field.allFit_append] at hfit
    obtain ⟨hahead, herror, hbehind⟩ := hfit
    exact Field.allFit_append.2 ⟨hahead, ⟨by decide, herror⟩, hbehind⟩

/-- The element of the error as it is read. -/
def errorNode (d : ErrorDocument) : Node :=
  .element "Error" [] (Field.nodes (Field.allUnified d.errorFields))

/-- The fields of the document as they are read, with the field of the error in the queue shape. -/
def fieldsWithin (d : ErrorDocument) : List Field :=
  match d.shape with
  | .storage => Field.allUnified d.errorFields
  | .queue ahead behind =>
    Field.allUnified ahead ++ .group "Error" (Field.allUnified d.errorFields) ::
      (Field.allUnified d.errorFields ++ Field.allUnified behind)

/-- No fields are inside the fields of the error. -/
theorem isLeaf_of_mem_errorFields (h : d.IsSound) {f : Field} (hf : f ∈ d.errorFields) : f.IsLeaf :=
  h.isLeaf f (List.mem_append_right _ (List.mem_append_left _ hf))

/-- Fields without fields inside are all that is within them, as they are read. -/
theorem withinAll_allUnified {fields : List Field} (h : ∀ f ∈ fields, f.IsLeaf) :
    Node.withinAll (Field.nodes (Field.allUnified fields)) =
      (Field.allUnified fields).map Field.node := by
  refine withinAll_nodes fun f hf => ?_
  rw [Field.allUnified_eq_map] at hf
  obtain ⟨g, hg, rfl⟩ := List.mem_map.1 hf
  exact Field.isLeaf_unified (h g hg)

/-- These fields are the elements below the root. -/
theorem withinAll_content (h : d.IsSound) :
    Node.withinAll d.written.unified.root.content = d.fieldsWithin.map Field.node := by
  have herror := withinAll_allUnified fun f hf => isLeaf_of_mem_errorFields h hf
  have hleaf := h.isLeaf
  unfold fieldsWithin
  cases hs : d.shape with
  | storage =>
    have hcontent : d.written.unified.root.content =
        Field.nodes (Field.allUnified d.errorFields) := by
      rw [written, hs]
      rfl
    rw [hcontent, herror]
  | queue ahead behind =>
    have hcontent : d.written.unified.root.content =
        Field.nodes (Field.allUnified ahead) ++
          d.errorNode :: Field.nodes (Field.allUnified behind) := by
      rw [written, hs]
      simp [Written.unified, Written.root, ErrorShape.rootFields, Node.content, Field.nodes_eq_map,
        Field.allUnified_eq_map, Field.unified, Field.node, errorNode]
    -- The field of the error counts, and so do the fields inside it.
    have hahead : ∀ f ∈ ahead, f.IsLeaf := fun f hf =>
      hleaf f (by simp [leaves, hs, ErrorShape.ahead, hf])
    have hbehind : ∀ f ∈ behind, f.IsLeaf := fun f hf =>
      hleaf f (by simp [leaves, hs, ErrorShape.behind, hf])
    rw [hcontent, withinAll_append, Node.withinAll, withinAll_allUnified hahead,
      withinAll_allUnified hbehind, errorNode, Node.within, herror]
    simp [Field.node]

/-- The error is found from the root. -/
theorem errorElement?_root (h : d.IsSound) :
    Decode.errorElement? d.written.unified.root = some d.errorNode := by
  have hwithin := withinAll_content h
  unfold fieldsWithin at hwithin
  cases hs : d.shape with
  | storage =>
    have hroot : d.written.unified.root = d.errorNode := by
      rw [written, hs]
      rfl
    rw [hroot]
    rfl
  | queue ahead behind =>
    rw [hs] at hwithin
    have hbefore : ∀ f ∈ ahead, f.name ≠ "Error" := fun f hf =>
      h.beforeError f (by rwa [hs])
    have hahead : Field.named "Error" (Field.allUnified ahead) = [] := by
      rw [Field.named_allUnified, Field.named_eq_nil hbefore, List.map_nil]
    have htag : d.written.unified.root.tag = "ErrorResponse" := by
      rw [written, hs]
      rfl
    have hother : ¬"ErrorResponse" = "Error" := by decide
    rw [Decode.errorElement?, htag, if_neg hother, descendant?_of_within hwithin,
      Field.named_append, hahead]
    rfl

/-- The code is read from the element of the error. -/
theorem childText?_errorNode (h : d.IsSound) : childText? d.errorNode "Code" = some d.code := by
  have hbefore : Field.named "Code" d.before = [] :=
    Field.named_eq_nil fun f hf => h.beforeCode f (List.mem_append_right _ hf)
  have hcode : unifyText d.code = d.code := by
    refine unifyText_of_no_return fun hmem => ?_
    cases h.code.isDark.isSpace_of_mem hmem
  have hnamed : (Field.named "Code" d.errorFields).head? = some (.text "Code" d.code) := by
    simp [errorFields, hbefore]
  rw [errorNode, childText?_nodes, Field.named_allUnified, List.head?_map, hnamed, Option.map_some,
    Option.map_some, Field.value_unified, Field.value_text, hcode]

/-- The id of the request is read from the root. -/
theorem descendantText?_root (h : d.IsSound) :
    descendantText? d.written.unified.root "RequestId" = d.requestId? := by
  have hnamed : Field.named "RequestId" d.fieldsWithin =
      (Field.named "RequestId" d.leaves).map Field.unified := by
    unfold fieldsWithin leaves
    cases d.shape with
    | storage => simp [ErrorShape.ahead, ErrorShape.behind, Field.named_allUnified]
    | queue ahead behind => simp [ErrorShape.ahead, ErrorShape.behind, Field.named_allUnified]
  rw [descendantText?_of_within (withinAll_content h), hnamed, List.head?_map, Option.map_map,
    requestId?]
  exact congrArg (Option.map · _) (funext Field.value_unified)

end ErrorDocument

/-- **The code that is found among the bytes is the code of the fault**, and both are the code of
the document; the fault has the id of the request from the headers or else from the document; and
the same request may succeed exactly when the status or the code of the fault says so. -/
theorem errorCode_eq_serviceCode {d : ErrorDocument} (hd : d.IsSound) (c : CallInfo) {r : Response}
    (hbody : r.body = d.written.bytes) :
    ∃ diagnosis, (Decode.errorFault c r).family = .service (some c.operation) diagnosis ∧
      r.errorCode = diagnosis.serviceCode ∧ diagnosis.serviceCode = some d.code ∧
      diagnosis.requestId = (nonEmpty? r.requestId).or (nonEmpty? d.requestId?) ∧
      (r.isRetryable = true ↔ r.status ∈ [500, 502, 503, 504] ∨
        400 ≤ r.status ∧ ∃ code ∈ diagnosis.serviceCode, code ∈ Response.retryableCodes) := by
  have hcode : r.errorCode = some d.code := by
    rw [Response.errorCode, hbody, ErrorDocument.findCode?_bytes hd, Option.map_some,
      Utf8.decodeLossy_encode, String.ofList_toList]
  have hempty : r.body.isEmpty = false := by
    rw [List.isEmpty_eq_false_iff]
    intro hnil
    have hfound := ErrorDocument.findCode?_bytes hd
    rw [← hbody, hnil] at hfound
    cases hfound
  have hroot : Decode.errorRoot? r = some d.written.unified.root := by
    rw [Decode.errorRoot?, hempty, if_neg Bool.false_ne_true, hbody,
      Written.readDocument?_bytes (ErrorDocument.isSound_written hd)]
  have hservice : nonEmpty? (some d.code) = some d.code := nonEmpty?_some hd.code.ne_empty
  refine ⟨⟨r.status, some d.code, (nonEmpty? r.requestId).or (nonEmpty? d.requestId?),
    some c.resource⟩, ?_, hcode, rfl, rfl, ?_⟩
  · simp only [Decode.errorFault, hroot, Option.bind_some, ErrorDocument.errorElement?_root hd,
      ErrorDocument.childText?_errorNode hd, hservice, ErrorDocument.descendantText?_root hd]
    rfl
  · simp [Response.isRetryable, Response.retryableStatuses, hcode]

/-- An error of the queue service, whose message holds another code. -/
def throttled : ErrorDocument :=
  { heading := .version
    space := some "http://queue.amazonaws.com/doc/2012-11-05/"
    shape := .queue [] [.text "RequestId" "7d0a2f9b"]
    before := [.text "Type" "Sender"]
    code := "SlowDown"
    after := [.text "Message" "<Code>NoSuchKey</Code> & more", .mark "Detail"] }

/-- Its own code is found and read, and the request may be made again. -/
theorem errorCode_throttled :
    ∃ diagnosis,
      (Decode.errorFault { operation := .sendMessage, resource := "jobs" }
        { status := 400, headers := [("x-amz-request-id", "")],
          body := throttled.written.bytes }).family = .service (some .sendMessage) diagnosis ∧
      Response.errorCode
        { status := 400, headers := [("x-amz-request-id", "")], body := throttled.written.bytes } =
          diagnosis.serviceCode ∧
      diagnosis.serviceCode = some "SlowDown" ∧
      diagnosis.requestId = some "7d0a2f9b" ∧
      Response.isRetryable
        { status := 400, headers := [("x-amz-request-id", "")], body := throttled.written.bytes } =
          true := by
  have hword : Response.IsWord throttled.code := ⟨by decide, by decide, by decide, by decide⟩
  have hleaves : throttled.leaves = [.text "Type" "Sender", .text "Code" "SlowDown",
      .text "Message" "<Code>NoSuchKey</Code> & more", .mark "Detail",
      .text "RequestId" "7d0a2f9b"] := rfl
  have hleaf : ∀ f ∈ throttled.leaves, f.IsLeaf := by
    rw [hleaves]
    simp [Field.IsLeaf]
  have hfit : Field.AllFit IsXmlText throttled.leaves := by
    rw [hleaves]
    exact ⟨⟨by decide, by decide⟩, ⟨by decide, by decide⟩, ⟨by decide, by decide⟩,
      show isPlainName "Detail".toList = true by decide, ⟨by decide, by decide⟩, trivial⟩
  have hspace : ∀ s ∈ throttled.space, Written.IsSpace s := by
    intro s hs
    obtain rfl := Option.some.inj hs
    exact ⟨by decide, by decide, by decide⟩
  have hd : throttled.IsSound := ⟨hword, hleaf, hfit, by decide, by decide, hspace⟩
  obtain ⟨diagnosis, hfamily, hcode, hservice, hrequest, hretryable⟩ :=
    errorCode_eq_serviceCode hd { operation := .sendMessage, resource := "jobs" }
      (r := { status := 400, headers := [("x-amz-request-id", "")],
              body := throttled.written.bytes }) rfl
  refine ⟨diagnosis, hfamily, hcode, hservice, ?_, ?_⟩
  · rw [hrequest]
    decide
  · rw [hretryable, hservice]
    exact .inr ⟨by decide, "SlowDown", rfl, by decide⟩

end CloudClient
