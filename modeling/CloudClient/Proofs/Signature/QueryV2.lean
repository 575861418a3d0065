import CloudClient.Proofs.Request.Names
import CloudClient.Proofs.Signature.Signed
import CloudClient.Proofs.Wire

/-!
# Version 2 signatures of parameters are verified from what is sent

A verifier reads the parameters of a message in its form or in the query of its locator, takes the
signature out and signs the others anew. Main statement: the others are those of the request and of
the signer, and what the verifier computes of them is the signature that came with them.
-/

namespace CloudClient.Signature.QueryV2

/-! ## Verifying -/

/-- The parameters of a message: those of its form when it has one, and else those in the query of
its locator. -/
def received? (hasForm : Bool) (m : Wire.Message) : Option (Dict String) :=
  if hasForm then (Wire.content? m.body).bind Wire.form?
  else (Wire.target? m.url).map fun target => Wire.parameters target.query

/-- The signature that is computed of a message and of the parameters that came with it. -/
def check? (secret : String) (m : Wire.Message) (received : Dict String) : Option String := do
  let target ← Wire.target? m.url
  let text ← (stringToSign m.method target.host target.path (received.erase "Signature")).toOption
  return signature secret text

/-! ## The parameters that are signed -/

/-- The parameter of a key: that of the query, else that of the signer, else that of the form. -/
def parameter? (request : Request) (signer : Dict String) (k : String) : Option String :=
  ((request.query.get? k).map fun v => v.getD "").or
    ((signer.get? k).or (request.form.bind fun form => form.get? k))

variable {request : Request} {credentials : Credentials} {endpoint : Endpoint} {time : DateTime}
  {signer : Dict String} {q : SignedRequest}

/-- The parameters of a request are merged in this order. -/
theorem get?_parameters (request : Request) (signer : Dict String) (k : String) :
    (parameters request signer).get? k = parameter? request signer k := by
  rw [parameters, Dict.get?_merge, Dict.get?_merge, Dict.get?_mapValues, parameter?]
  cases request.form <;> rfl

/-- The signer has parameters of its own names. -/
theorem ne_of_mem_keys_identity (h : identity credentials time = .ok signer) :
    ∀ k ∈ signer.keys, k ≠ "" ∧ k ≠ "Signature" := by
  have hnames : ∀ k ∈ ["AWSAccessKeyId", "SignatureVersion", "SignatureMethod", "Timestamp",
      "SecurityToken"], k ≠ "" ∧ k ≠ "Signature" := by decide
  obtain ⟨utc, -, h⟩ := exists_of_bind_eq_ok h
  cases h
  intro k hk
  refine hnames k ?_
  split at hk
  · exact List.mem_append_left ["SecurityToken"] (Dict.mem_keys_ofList hk)
  · rw [Dict.keys_put] at hk
    split at hk
    · exact List.mem_append_left ["SecurityToken"] (Dict.mem_keys_ofList hk)
    · rcases List.mem_append.1 hk with hk | hk
      · exact List.mem_append_left ["SecurityToken"] (Dict.mem_keys_ofList hk)
      · exact List.mem_append_right ["AWSAccessKeyId", "SignatureVersion", "SignatureMethod",
          "Timestamp"] hk

/-- No parameter that is signed is named like the signature, or has no name. -/
theorem ne_of_mem_keys_parameters (hr : request.HasPlainParameters)
    (hsigner : identity credentials time = .ok signer) :
    ∀ k ∈ (parameters request signer).keys, k ≠ "" ∧ k ≠ "Signature" := by
  intro k hk
  rcases Dict.mem_keys_putAll hk with hk | hk
  · rcases Dict.mem_keys_putAll hk with hk | hk
    · cases hform : request.form with
      | none =>
        rw [hform] at hk
        cases hk
      | some form =>
        rw [hform] at hk
        exact hr.form form hform k hk
    · exact ne_of_mem_keys_identity hsigner k hk
  · have hquery : k ∈ request.query.keys := by
      have hmap : (request.query.mapValues fun v => v.getD "").keys = request.query.keys :=
        List.map_map
      rw [← hmap]
      exact hk
    exact hr.query k hquery

/-- The text that is signed forgets the order of the parameters. -/
theorem stringToSign_congr {p p' : Dict String} (h : p.entries.Perm p'.entries)
    (method host path : String) :
    stringToSign method host path p = stringToSign method host path p' := by
  have hcanonical : (formQuery p).canonical = (formQuery p').canonical :=
    Query.canonical_congr (h.map _)
  rw [stringToSign, stringToSign, hcanonical]

/-! ## Signing -/

/-- What a request is signed from: the text of all its parameters, which travel with the signature
in the form when there is one, and else in the query. -/
theorem sign_eq_ok (h : sign request credentials endpoint time = .ok q) :
    ∃ signer host text signed, identity credentials time = .ok signer ∧ endpoint.host = .ok host ∧
      stringToSign request.method.name host request.path (parameters request signer) = .ok text ∧
      signed = (parameters request signer).put "Signature" (signature credentials.secret text) ∧
      if request.form.isSome then
        finish request endpoint request.headers
          (.bytes (Utf8.ofString (formQuery signed).canonical)) .empty = .ok q
      else finish request endpoint request.headers request.body (formQuery signed) = .ok q := by
  obtain ⟨signer, hsigner, h⟩ := exists_of_bind_eq_ok h
  obtain ⟨host, hhost, h⟩ := exists_of_bind_eq_ok h
  obtain ⟨text, htext, h⟩ := exists_of_bind_eq_ok h
  refine ⟨signer, host, text, _, eq_ok_of_mapError hsigner, eq_ok_of_mapError hhost, htext, rfl, ?_⟩
  dsimp only at h
  cases hform : request.form with
  | none =>
    rw [hform] at h
    exact h
  | some form =>
    rw [hform] at h
    exact h

/-- **When signing succeeds.** A path that can be signed and a time that can be told are all that it
needs of a request for a valid endpoint. -/
theorem exists_sign_iff (hvalid : endpoint.validate = .ok ()) :
    (∃ q, sign request credentials endpoint time = .ok q) ↔
      checkPath request.path = .ok () ∧ ∃ utc, time.toUtc = .ok utc := by
  constructor
  · rintro ⟨q, hq⟩
    obtain ⟨signer, host, text, signed, hsigner, -, htext, -⟩ := sign_eq_ok hq
    obtain ⟨_, hpath, -⟩ := exists_of_bind_eq_ok htext
    obtain ⟨utc, hutc, -⟩ := exists_of_bind_eq_ok hsigner
    exact ⟨eq_ok_of_mapError hpath, utc, hutc⟩
  · rintro ⟨hpath, utc, hutc⟩
    obtain ⟨host, hhost, -⟩ := Endpoint.exists_host_of_validate hvalid
    obtain ⟨signer, hsigner⟩ : ∃ signer, identity credentials time = .ok signer := by
      rw [identity, hutc]
      exact ⟨_, rfl⟩
    obtain ⟨text, htext⟩ : ∃ text, stringToSign request.method.name host request.path
        (parameters request signer) = .ok text := by
      rw [stringToSign, hpath, Method.ofName?_name]
      exact ⟨_, rfl⟩
    rw [sign, hsigner, hhost]
    show ∃ q, (stringToSign request.method.name host request.path
      (parameters request signer) >>= _) = .ok q
    rw [htext]
    cases hform : request.form with
    | none => exact Wire.exists_finish_of_validate hvalid _ _ _ _
    | some form => exact Wire.exists_finish_of_validate hvalid _ _ _ _

/-! ## Verification -/

/-- A message that was signed is verified: its parameters are those that were signed and the
signature, and the signature is the one that is computed. A form leaves nothing to the locator and
tells its length. -/
structure Verifies (request : Request) (credentials : Credentials) (signer received : Dict String)
    (m : Wire.Message) : Prop where
  reads : received? request.form.isSome m = some received
  others : ∀ k, k ≠ "Signature" → received.get? k = parameter? request signer k
  proof : ∃ proof, received.get? "Signature" = some proof ∧
    check? credentials.secret m received = some proof
  form : request.form.isSome = true → '?' ∉ m.url.toList ∧
    m.headers.get? "Content-Length" = some (toString m.body.length)

section

variable {host text : String} {signed received : Dict String}

/-- The other parameters of what is received are those that were signed. -/
theorem perm_erase (hr : request.HasPlainParameters)
    (hsigner : identity credentials time = .ok signer) {proof : String}
    (hreceived : received.entries.Perm
      ((parameters request signer).put "Signature" proof).entries) :
    (received.erase "Signature").entries.Perm (parameters request signer).entries := by
  have hnew : "Signature" ∉ (parameters request signer).keys := by
    intro hmem
    exact (ne_of_mem_keys_parameters hr hsigner _ hmem).2 rfl
  have hback := Dict.entries_erase (Dict.entries_put_of_not_mem (v := proof) hnew)
  rw [List.append_nil] at hback
  rw [← hback]
  exact hreceived.filter _

/-- What is computed of a message is the signature of what was signed. -/
theorem check?_eq_some {m : Wire.Message} {target : Wire.Target} (secret : String)
    (hmethod : m.method = request.method.name) (htarget : Wire.target? m.url = some target)
    (htext : stringToSign request.method.name target.host target.path (parameters request signer) =
      .ok text)
    (hreceived : (received.erase "Signature").entries.Perm (parameters request signer).entries) :
    check? secret m received = some (signature secret text) := by
  rw [check?, htarget]
  simp only [Option.bind_eq_bind, Option.bind_some]
  rw [stringToSign_congr hreceived, hmethod, htext]
  rfl

/-- A message is verified when its parameters are those that were signed, with the signature. -/
theorem verifies_of_perm (hr : request.HasPlainParameters)
    (hsigner : identity credentials time = .ok signer) {m : Wire.Message} {target : Wire.Target}
    (hmethod : m.method = request.method.name) (htarget : Wire.target? m.url = some target)
    (htext : stringToSign request.method.name target.host target.path (parameters request signer) =
      .ok text)
    (hreads : received? request.form.isSome m = some received)
    (hreceived : received.entries.Perm
      ((parameters request signer).put "Signature" (signature credentials.secret text)).entries)
    (hform : request.form.isSome = true → '?' ∉ m.url.toList ∧
      m.headers.get? "Content-Length" = some (toString m.body.length)) :
    Verifies request credentials signer received m where
  reads := hreads
  others := by
    intro k hk
    rw [Dict.get?_of_perm hreceived, Dict.get?_put_of_ne _ hk, get?_parameters]
  proof := by
    refine ⟨signature credentials.secret text, ?_, ?_⟩
    · rw [Dict.get?_of_perm hreceived, Dict.get?_put_self]
    · exact check?_eq_some credentials.secret hmethod htarget htext
        (perm_erase hr hsigner hreceived)
  form := hform

end

/-- The bytes of a form with parameters are announced. -/
theorem get?_length_of_form {d received : Dict String} {k v : String} (method : Method)
    (headers : Headers)
    (hread : Wire.form? (Utf8.ofString (formQuery d).canonical) = some received)
    (hk : received.get? k = some v) :
    (withLength method headers (.bytes (Utf8.ofString (formQuery d).canonical))).get?
        "Content-Length" =
      some (toString (Body.bytes (Utf8.ofString (formQuery d).canonical)).length) := by
  have hne : (Body.bytes (Utf8.ofString (formQuery d).canonical)).length ≠ 0 := by
    -- No bytes stand for no parameters.
    intro hzero
    have hnil : Utf8.ofString (formQuery d).canonical = [] := by
      refine List.eq_nil_of_length_eq_zero ?_
      exact Int.ofNat_eq_zero.1 hzero
    have hempty : Wire.form? [] = some .empty := by
      rw [Wire.form?, show ([] : Bytes) = Utf8.encode [] from rfl, Utf8.decode?_encode]
      rfl
    rw [hnil, hempty] at hread
    cases hread
    cases hk
  have hannounced : ((Body.bytes (Utf8.ofString (formQuery d).canonical)).length != 0 ||
      method == .put || method == .post) = true := by
    rw [bne_iff_ne.2 hne]
    rfl
  rw [withLength, if_pos hannounced]
  exact Dict.get?_put_self _ _ _

/-- **Signatures of parameters are verified from what is sent.** The requests of the queue service
are forms with plain parameters. A request with plain parameters, with a form or without, is signed
for a valid endpoint at every time that can be told when its path can be signed; and its message
alone gives the parameters that were signed and the signature that was sent with them. -/
theorem sign_verifies_from_parameters :
    (∀ {call : QueueCall} {version : String} {r : Request}, call.request version = .ok r →
      r.form.isSome = true ∧ r.HasPlainParameters) ∧
    ∀ (request : Request) (credentials : Credentials) (endpoint : Endpoint) (time : DateTime),
      request.HasPlainParameters → endpoint.validate = .ok () →
        ((∃ q, sign request credentials endpoint time = .ok q) ↔
          checkPath request.path = .ok () ∧ ∃ utc, time.toUtc = .ok utc) ∧
        ∀ q, sign request credentials endpoint time = .ok q →
          ∃ signer received, identity credentials time = .ok signer ∧
            Verifies request credentials signer received q.message := by
  refine ⟨QueueCall.hasPlainParameters, ?_⟩
  intro request credentials endpoint time hr hvalid
  refine ⟨exists_sign_iff hvalid, ?_⟩
  intro q hq
  obtain ⟨signer, host, text, signed, hsigner, hhost, htext, hsigned, hfinish⟩ := sign_eq_ok hq
  obtain ⟨_, hpath, -⟩ := exists_of_bind_eq_ok htext
  obtain ⟨rest, hpath⟩ := exists_of_checkPath (eq_ok_of_mapError hpath)
  have hproof : signed.get? "Signature" = some (signature credentials.secret text) := by
    rw [hsigned, Dict.get?_put_self]
  -- The host and the path are read of the locator whatever stands in its query.
  have htarget : ∀ {url query}, "" ∉ Dict.keys query →
      locator endpoint request.path query = .ok url →
      ∃ r : Query, Wire.target? url = some { host, path := request.path, query := r } ∧
        r.entries.Perm query.entries := by
    intro url query hkeys hurl
    obtain ⟨host', r, hhost', htarget, hperm⟩ :=
      Wire.exists_target_of_locator hvalid hpath hkeys hurl
    obtain rfl : host = host' := Except.ok.inj (hhost.symm.trans hhost')
    exact ⟨r, htarget, hperm⟩
  cases hform : request.form.isSome with
  | true =>
    rw [hform, if_pos rfl] at hfinish
    obtain ⟨url, hurl, rfl⟩ := finish_eq_ok hfinish
    obtain ⟨r, hread, -⟩ := htarget List.not_mem_nil hurl
    obtain ⟨received, hreceived, hperm⟩ := Wire.form?_ofString signed
    have hlength := get?_length_of_form request.method request.headers hreceived
      ((Dict.get?_of_perm hperm _).trans hproof)
    refine ⟨signer, received, hsigner, verifies_of_perm hr hsigner rfl hread htext ?_ ?_ ?_⟩
    · rw [hform]
      exact hreceived
    · rw [← hsigned]
      exact hperm
    · intro _
      exact ⟨Wire.question_not_mem_of_locator hvalid hurl, hlength⟩
  | false =>
    rw [hform, if_neg (by simp)] at hfinish
    obtain ⟨url, hurl, rfl⟩ := finish_eq_ok hfinish
    have hkeys : "" ∉ (formQuery signed).keys := by
      have hsame : (formQuery signed).keys = signed.keys := List.map_map
      rw [hsame, hsigned, Dict.keys_put]
      have hplain : "" ∉ (parameters request signer).keys := by
        intro hmem
        exact (ne_of_mem_keys_parameters hr hsigner _ hmem).1 rfl
      split
      · exact hplain
      · rw [List.mem_append, not_or]
        exact ⟨hplain, by decide⟩
    obtain ⟨r, hread, hperm⟩ := htarget hkeys hurl
    refine ⟨signer, Wire.parameters r, hsigner,
      verifies_of_perm hr hsigner rfl hread htext ?_ ?_ ?_⟩
    · rw [hform, received?, if_neg (by simp), SignedRequest.message, hread]
      rfl
    · rw [← hsigned]
      exact Wire.perm_parameters hperm
    · rw [hform]
      intro h
      cases h

/-- A message with separators in its text is signed for a plain endpoint, and its form is verified.
-/
theorem sendMessage_is_verified :
    ∃ r q signer received,
      QueueCall.request "2012-11-05" (.sendMessage "http://h/1/jobs" "a=1&b +é") = .ok r ∧
        r.HasPlainParameters ∧ Endpoint.validate { url := "http://h", service := "sqs" } = .ok () ∧
        sign r ⟨"id", "secret", none⟩ { url := "http://h", service := "sqs" }
          ⟨2024, 1, 1, 0, 0, 0, 0, some 0⟩ = .ok q ∧
        Verifies r ⟨"id", "secret", none⟩ signer received q.message ∧
        received.get? "MessageBody" = some "a=1&b +é" := by
  have hbuilt : ∃ r,
      QueueCall.request "2012-11-05" (.sendMessage "http://h/1/jobs" "a=1&b +é") = .ok r ∧
        checkPath r.path = .ok () ∧ r.query = .empty ∧
        (r.form.bind fun form => form.get? "MessageBody") = some "a=1&b +é" :=
      ⟨_, rfl, rfl, rfl, rfl⟩
  obtain ⟨r, hr, hpath, hquery, hbody⟩ := hbuilt
  have hplain := (sign_verifies_from_parameters.1 hr).2
  have hvalid : Endpoint.validate { url := "http://h", service := "sqs" } = .ok () := rfl
  obtain ⟨hsucceeds, hverifies⟩ := sign_verifies_from_parameters.2 r ⟨"id", "secret", none⟩ _
    ⟨2024, 1, 1, 0, 0, 0, 0, some 0⟩ hplain hvalid
  obtain ⟨q, hq⟩ := hsucceeds.2 ⟨hpath, _, rfl⟩
  obtain ⟨signer, received, hsigner, hv⟩ := hverifies q hq
  have hother : signer.get? "MessageBody" = none := by
    cases hsigner
    rfl
  refine ⟨r, q, signer, received, hr, hplain, hvalid, hq, hv, ?_⟩
  rw [hv.others _ (by decide), parameter?, hquery, hother, hbody]
  rfl

end CloudClient.Signature.QueryV2
