import CloudClient.Proofs.Calendar.CompactText
import CloudClient.Proofs.Signature.Attached
import CloudClient.Proofs.Signature.Signed
import CloudClient.Proofs.Wire

/-!
# Version 4 signatures are verified from what is sent

A verifier has the method, the locator, the headers and the body of a request, and shares the
secret. It puts the host of the locator among the headers and computes the signature anew. Main
statement: what it computes is what was signed, and the proof that was sent with the request says
so.
-/

namespace CloudClient

namespace Signature.V4

/-! ## Verifying -/

/-- The scope of a day. -/
def dayScope (day region service : String) : String := s!"{day}/{region}/{service}/aws4_request"

/-- The key of a day. -/
def dayKey (secret day region service : String) : Bytes :=
  [day, region, service, "aws4_request"].foldl
    (fun key text => Hash.hmacSha256 key (Utf8.ofString text)) (Utf8.ofString ("AWS4" ++ secret))

/-- The text that is signed at a date, in a scope. -/
def datedText (date scope canonical : String) : String :=
  lines [algorithm, date, scope, Hex.ofBytes (Hash.Sha256.digest (Utf8.ofString canonical))]

/-- What a verifier computes of a request. -/
structure Check where
  canonical : String
  signedHeaders : String
  scope : String
  signature : String

/-- The check of a canonical request and the names in it, at a date. The day ends where the time
begins. -/
def checkOf (secret region service date : String) (form : String × String) : Check :=
  let day := String.ofList (Text.cut 'T' date.toList).1
  let scope := dayScope day region service
  { canonical := form.1
    signedHeaders := form.2
    scope
    signature := Hex.ofBytes (Hash.hmacSha256 (dayKey secret day region service)
      (Utf8.ofString (datedText date scope form.1))) }

/-- What is computed of a message alone: the host is taken from its locator, the date and the hash
of the body from its headers. -/
def check? (secret region service : String) (m : Wire.Message) : Option Check := do
  let target ← Wire.target? m.url
  let date ← header? "x-amz-date" m.headers
  let hash ← header? "x-amz-content-sha256" m.headers
  let form ← (canonicalRequest m.method target.path target.query
    (m.headers.put "Host" target.host) hash).toOption
  return checkOf secret region service date form

/-- The proof that a check expects from the holder of a key. -/
def Check.proof (c : Check) (keyId : String) : String :=
  s!"{algorithm} Credential={keyId}/{c.scope}, " ++
    s!"SignedHeaders={c.signedHeaders}, Signature={c.signature}"

/-! ## What is signed -/

/-- The canonical request that is signed, and the names of the headers in it. -/
def signedForm (request : Request) (credentials : Credentials) (endpoint : Endpoint)
    (time : DateTime) : Except Failure (String × String) := do
  let utc ← time.toUtc.mapError .date
  let host ← endpoint.host.mapError .uri
  let hash := payloadHash (sentBody request)
  canonicalRequest request.method.name request.path request.query
    (withIdentity request.headers host utc.compactText hash credentials.token) hash

variable {request : Request} {credentials : Credentials} {endpoint : Endpoint} {time : DateTime}
  {q : SignedRequest}

/-- A signed request is put together with the proof that a check of its canonical request expects.
-/
theorem sign_eq_ok (h : sign request credentials endpoint time = .ok q) :
    ∃ date host form, endpoint.host = .ok host ∧
      signedForm request credentials endpoint time = .ok form ∧
      canonicalRequest request.method.name request.path request.query
        (withIdentity request.headers host date (payloadHash (sentBody request))
          credentials.token) (payloadHash (sentBody request)) = .ok form ∧
      finish request endpoint
        (((withIdentity request.headers host date (payloadHash (sentBody request))
          credentials.token).put "Authorization"
            ((checkOf credentials.secret endpoint.region endpoint.service date form).proof
              credentials.keyId)).erase "Host") (sentBody request) request.query = .ok q := by
  obtain ⟨utc, hutc, h⟩ := exists_of_bind_eq_ok h
  obtain ⟨host, hhost, h⟩ := exists_of_bind_eq_ok h
  obtain ⟨form, hform, h⟩ := exists_of_bind_eq_ok h
  refine ⟨utc.compactText, host, form, eq_ok_of_mapError hhost, ?_, hform, ?_⟩
  · rw [signedForm, hutc, hhost]
    exact hform
  · -- The verifier finds the day in the date, from which the scope and the key were made.
    rw [checkOf, DateTime.cut_compactText]
    exact h

/-! ## The hash of a body -/

/-- Only a streamed body has no hash. -/
theorem payloadHash_eq_unsignedPayload_iff {body : Body} :
    payloadHash body = unsignedPayload ↔ ∃ part, body = .stream part := by
  have hhash : ∀ data, Hex.ofBytes (Hash.Sha256.digest data) ≠ unsignedPayload := by
    intro data heq
    -- A hash has 64 digits; the text that stands for none is shorter.
    have hlength := congrArg (fun s : String => s.toList.length) heq
    rw [Hex.ofBytes, String.toList_ofList, Hex.length_encode, Hash.Sha256.length_digest] at hlength
    revert hlength
    decide
  cases body with
  | empty =>
    refine ⟨fun heq => absurd heq (hhash []), ?_⟩
    rintro ⟨part, heq⟩
    cases heq
  | bytes data =>
    refine ⟨fun heq => absurd heq (hhash data), ?_⟩
    rintro ⟨part, heq⟩
    cases heq
  | stream part =>
    constructor
    · intro _
      exact ⟨part, rfl⟩
    · intro _
      rfl

/-- The hash of a body in memory is that of its bytes. -/
theorem payloadHash_of_content {body : Body} {data : Bytes} (h : Wire.content? body = some data) :
    payloadHash body = Hex.ofBytes (Hash.Sha256.digest data) := by
  cases body with
  | empty =>
    cases h
    rfl
  | bytes bytes =>
    cases h
    rfl
  | stream part => cases h

/-! ## Verification -/

/-- A message that was signed as a canonical request is verified: what is computed of it alone is
that canonical request, and its proof is the one that is expected. -/
structure Verifies (credentials : Credentials) (endpoint : Endpoint) (form : String × String)
    (m : Wire.Message) (c : Check) : Prop where
  check : check? credentials.secret endpoint.region endpoint.service m = some c
  canonical : c.canonical = form.1
  signedHeaders : c.signedHeaders = form.2
  proof : header? "authorization" m.headers = some (c.proof credentials.keyId)

/-- What the headers of a message say of its body: the hash is that of its bytes, only a stream has
none, and a length that is told is the length of the body. -/
structure TellsBody (m : Wire.Message) : Prop where
  hash : ∀ data, Wire.content? m.body = some data →
    header? "x-amz-content-sha256" m.headers = some (Hex.ofBytes (Hash.Sha256.digest data))
  unsigned : header? "x-amz-content-sha256" m.headers = some unsignedPayload ↔
    ∃ part, m.body = .stream part
  length : ∀ value, header? "content-length" m.headers = some value →
    value = toString m.body.length

section

variable {host date hash : String} {token : Option String} {proof : String} {method : Method}
  {body : Body} {form : String × String} {m : Wire.Message}

/-- What is computed of a message is the check of the canonical request that was signed. -/
theorem check?_eq_some (secret : String) (hr : request.HasPlainNames)
    (hvalid : endpoint.validate = .ok ()) (hhost : endpoint.host = .ok host)
    (hform : canonicalRequest request.method.name request.path request.query
      (withIdentity request.headers host date hash token) hash = .ok form)
    (hmethod : m.method = request.method.name)
    (hurl : locator endpoint request.path request.query = .ok m.url)
    (hheaders : m.headers.entries =
      request.headers.entries ++ attached date hash token proof method body) :
    check? secret endpoint.region endpoint.service m =
      some (checkOf secret endpoint.region endpoint.service date form) := by
  -- A path that was signed begins with a slash, so the authority of the locator ends where it
  -- begins.
  obtain ⟨rest, hpath⟩ := exists_path_of_canonicalRequest hform
  obtain ⟨host', query, hhost', htarget, hquery⟩ :=
    Wire.exists_target_of_locator hvalid hpath hr.keys hurl
  obtain rfl : host = host' := Except.ok.inj (hhost.symm.trans hhost')
  obtain ⟨hdate, hhash, -⟩ := header?_sent hr hheaders
  -- Query and headers have come in another order, which the canonical request forgets.
  have hreceived : canonicalRequest m.method request.path query (m.headers.put "Host" host) hash =
      .ok form := by
    rw [canonicalRequest_congr hquery (covered_received_perm hr hheaders), hmethod, hform]
  rw [check?, htarget, hdate, hhash]
  simp only [Option.bind_eq_bind, Option.bind_some]
  rw [hreceived]
  rfl

/-- The headers of a message tell its body. -/
theorem tellsBody (hr : request.HasPlainNames)
    (hheaders : m.headers.entries =
      request.headers.entries ++ attached date (payloadHash m.body) token proof method m.body) :
    TellsBody m := by
  obtain ⟨-, hhash, -⟩ := header?_sent hr hheaders
  refine ⟨?_, ?_, ?_⟩
  · intro data hdata
    rw [hhash, payloadHash_of_content hdata]
  · rw [hhash, Option.some.injEq]
    exact payloadHash_eq_unsignedPayload_iff
  · intro value hvalue
    exact eq_of_header?_length hr hheaders hvalue

end

/-- **Signatures are verified from what is sent.** The requests of both services have plain names.
When a request with plain names is signed for a valid endpoint, its message alone gives the
canonical request that was signed and the proof that was sent with it, and its headers tell its
body. -/
theorem sign_verifies_from_message :
    (∀ r : Request, r.IsBuilt → r.HasPlainNames) ∧
      ∀ {request : Request} {credentials : Credentials} {endpoint : Endpoint} {time : DateTime}
        {q : SignedRequest}, request.HasPlainNames → endpoint.validate = .ok () →
          sign request credentials endpoint time = .ok q →
            ∃ form, signedForm request credentials endpoint time = .ok form ∧
              (∃ c, Verifies credentials endpoint form q.message c) ∧ TellsBody q.message := by
  refine ⟨fun _ => Request.IsBuilt.hasPlainNames, ?_⟩
  intro request credentials endpoint time q hr hvalid h
  obtain ⟨date, host, form, hhost, hsigned, hform, hfinish⟩ := sign_eq_ok h
  obtain ⟨url, hurl, hq⟩ := finish_eq_ok hfinish
  have hheaders : q.message.headers.entries =
      request.headers.entries ++ attached date (payloadHash q.message.body) credentials.token
        ((checkOf credentials.secret endpoint.region endpoint.service date form).proof
          credentials.keyId) request.method q.message.body := by
    rw [hq]
    exact entries_sent _ _ _ _ _ _ _ hr
  have hmethod : q.message.method = request.method.name := by
    rw [hq]
    rfl
  have hsentUrl : locator endpoint request.path request.query = .ok q.message.url := by
    rw [hq]
    exact hurl
  obtain ⟨-, -, hproof⟩ := header?_sent hr hheaders
  refine ⟨form, hsigned, ⟨_, ?_, rfl, rfl, hproof⟩, tellsBody hr hheaders⟩
  refine check?_eq_some credentials.secret hr hvalid hhost ?_ hmethod hsentUrl hheaders
  rw [hq]
  exact hform

/-- The listing of what begins with a text in a bucket is signed for a plain endpoint, and its
message is verified. -/
theorem listing_is_verified :
    ∃ r q form c,
      StorageCall.request none (.listBucket "photos" "a&b" "" .null none) = .ok r ∧
        r.HasPlainNames ∧ Endpoint.validate { url := "http://h" } = .ok () ∧
        sign r ⟨"id", "secret", none⟩ { url := "http://h" } ⟨2024, 1, 1, 0, 0, 0, 0, some 0⟩ =
          .ok q ∧
        Verifies ⟨"id", "secret", none⟩ { url := "http://h" } form q.message c := by
  have hbuilt : ∃ r, StorageCall.request none (.listBucket "photos" "a&b" "" .null none) = .ok r ∧
      ∃ q, sign r ⟨"id", "secret", none⟩ { url := "http://h" }
        ⟨2024, 1, 1, 0, 0, 0, 0, some 0⟩ = .ok q := ⟨_, rfl, _, rfl⟩
  obtain ⟨r, hr, q, hq⟩ := hbuilt
  have hplain : r.HasPlainNames := sign_verifies_from_message.1 r (.storage hr)
  obtain ⟨form, -, ⟨c, hc⟩, -⟩ := sign_verifies_from_message.2 hplain rfl hq
  exact ⟨r, q, form, c, hr, hplain, rfl, hq, hc⟩

end Signature.V4

end CloudClient
