import CloudClient.Proofs.Request.HeaderLines
import CloudClient.Proofs.Request.Refusal
import CloudClient.Proofs.Signature.Attached
import CloudClient.Proofs.Signature.HeaderV2
import CloudClient.Proofs.Signature.Signed

/-!
# The headers of signed requests

Every scheme sends the headers of a request and adds its own behind them. Main statement: a call of
the storage service is refused or becomes a request whose headers, before and after signing, have
names and are single lines, unless a text that the call is given for them, or one of the signer's,
breaks its line.
-/

namespace CloudClient

/-- The texts of the signer and of the endpoint that a scheme writes into headers. -/
def Signer.headerTexts (signer : Signer) (credentials : Credentials) (endpoint : Endpoint) :
    List String :=
  match signer with
  | headerV2 => (Fault.firstGiven [credentials.token]).toList ++ [credentials.keyId]
  | queryV2 => []
  | v4 =>
    (Fault.firstGiven [credentials.token]).toList ++
      [credentials.keyId, endpoint.region, endpoint.service]

namespace Signature

variable {request : Request} {credentials : Credentials} {endpoint : Endpoint} {time : DateTime}
  {q : SignedRequest} {texts : List String}

/-! ## The headers that are added -/

/-- The header of a token, when one is given. -/
def tokenHeader (token : Option String) : List (String × String) :=
  ((Fault.firstGiven [token]).map fun t => ("x-amz-security-token", t)).toList

/-- The header of a token breaks its line with the token. -/
theorem breakWith_tokenHeader (token : Option String) :
    Headers.BreakWith (tokenHeader token) (Fault.firstGiven [token]).toList := by
  have hname : Text.IsOneLine "x-amz-security-token" := by decide
  unfold tokenHeader
  cases Fault.firstGiven [token] with
  | none => exact .nil
  | some t => exact .single (by decide) hname (List.forall_mem_singleton ..).symm

/-- The length of a body is announced on a line of its own. -/
theorem breakWith_announced (method : Method) (body : Body) :
    Headers.BreakWith (V4.announced method body) [] := by
  have hname : Text.IsOneLine "Content-Length" := by decide
  rw [V4.announced]
  split
  · exact .whole (by decide) hname (Text.isOneLine_toString_int _)
  · exact .nil

/-- The length of a body is announced last. -/
theorem entries_withLength {headers : Headers} (h : "Content-Length" ∉ headers.keys)
    (method : Method) (body : Body) :
    (withLength method headers body).entries = headers.entries ++ V4.announced method body := by
  rw [withLength, V4.announced]
  split
  · exact Dict.entries_put_of_not_mem h
  · exact (List.append_nil _).symm

/-- A new name is none of the names. -/
theorem IsNew.not_mem {h : Headers} {k : String} (hk : IsNew h k) : k ∉ h.keys :=
  fun hmem => hk (List.mem_map_of_mem hmem)

/-! ## The schemes -/

namespace HeaderV2

/-- The headers that are added to those of a request. -/
def attached (date : String) (token : Option String) (proof : String) (method : Method)
    (body : Body) : List (String × String) :=
  ("Date", date) :: (tokenHeader token ++ ("Authorization", proof) :: V4.announced method body)

/-- The headers that are sent are those of the request and those that are added. -/
theorem entries_sent (hr : IsPlain request) (date : String) (token : Option String) (proof : String)
    (method : Method) (body : Body) :
    (withLength method ((dated request.headers date token).put "Authorization" proof)
      body).entries =
      request.headers.entries ++ attached date token proof method body := by
  have hdate : "Date" ∉ request.headers.keys := (hr.isNew (by decide)).not_mem
  have htoken : "x-amz-security-token" ∉ (request.headers.put "Date" date).keys :=
    ((hr.isNew (by decide)).put "Date" date (by decide)).not_mem
  have hproof : "Authorization" ∉ (dated request.headers date token).keys :=
    (hr.isNew_dated (by decide) (by decide) (by decide) date token).not_mem
  have hlength : "Content-Length" ∉
      ((dated request.headers date token).put "Authorization" proof).keys :=
    ((hr.isNew_dated (by decide) (by decide) (by decide) date token).put "Authorization" proof
      (by decide)).not_mem
  have hdated : (dated request.headers date token).entries =
      request.headers.entries ++ ("Date", date) :: tokenHeader token := by
    unfold dated tokenHeader
    split
    · rename_i hnone
      rw [hnone]
      exact Dict.entries_put_of_not_mem hdate
    · rename_i t hsome
      rw [hsome, Dict.entries_put_of_not_mem htoken, Dict.entries_put_of_not_mem hdate,
        List.append_assoc]
      rfl
  rw [entries_withLength hlength, Dict.entries_put_of_not_mem hproof, hdated, attached]
  simp only [List.append_assoc, List.cons_append, List.nil_append]

/-- The headers that are added break their lines with the token and the signature. -/
theorem breakWith_attached (utc : DateTime) (token : Option String) {proof : String}
    (method : Method) (body : Body) (hproof : Text.IsOneLine proof ↔ Headers.AreWhole texts) :
    Headers.BreakWith (attached (MailDate.write utc) token proof method body)
      ((Fault.firstGiven [token]).toList ++ texts) := by
  have hdate : Headers.BreakWith [("Date", MailDate.write utc)] [] :=
    .whole (by decide) (by decide) (Text.isOneLine_mailDate utc)
  have hsigned : Headers.BreakWith [("Authorization", proof)] texts :=
    .single (by decide) (by decide) hproof
  have hall := hdate.append ((breakWith_tokenHeader token).append
    (hsigned.append (breakWith_announced method body)))
  rw [List.append_nil] at hall
  exact hall

/-- **The older scheme of the storage service adds the token and the id of the key as they are.** -/
theorem breakWith_sent (hr : IsPlain request) (h : sign request credentials endpoint time = .ok q)
    (hbreak : Headers.BreakWith request.headers.entries texts) :
    Headers.BreakWith q.headers.entries
      (texts ++ Signer.headerTexts .headerV2 credentials endpoint) := by
  obtain ⟨utc, text, -, -, hfinish⟩ := sign_eq_ok h
  obtain ⟨url, -, rfl⟩ := finish_eq_ok hfinish
  have hproof : Text.IsOneLine
      (authorization credentials.keyId (signature credentials.secret text)) ↔
        Headers.AreWhole [credentials.keyId] := by
    simp +decide [authorization, toString, signature, Headers.AreWhole]
  dsimp only
  rw [entries_sent hr]
  exact hbreak.append (breakWith_attached utc credentials.token request.method request.body hproof)

end HeaderV2

namespace QueryV2

/-- **The scheme of the queue service adds the length alone.** -/
theorem breakWith_sent (hlength : "Content-Length" ∉ request.headers.keys)
    (h : sign request credentials endpoint time = .ok q)
    (hbreak : Headers.BreakWith request.headers.entries texts) :
    Headers.BreakWith q.headers.entries
      (texts ++ Signer.headerTexts .queryV2 credentials endpoint) := by
  obtain ⟨signer, -, h⟩ := exists_of_bind_eq_ok h
  obtain ⟨host, -, h⟩ := exists_of_bind_eq_ok h
  obtain ⟨text, -, h⟩ := exists_of_bind_eq_ok h
  -- With a form and without one, the headers of the request are the ones that are sent.
  have hsent : ∃ body query, finish request endpoint request.headers body query = .ok q := by
    dsimp only at h
    split at h
    · exact ⟨_, _, h⟩
    · exact ⟨_, _, h⟩
  obtain ⟨body, query, hfinish⟩ := hsent
  obtain ⟨url, -, rfl⟩ := finish_eq_ok hfinish
  dsimp only
  rw [entries_withLength hlength]
  exact hbreak.append (breakWith_announced request.method body)

end QueryV2

namespace V4

/-- The headers that are added before signing break their lines with the token. -/
theorem breakWith_dated (utc : DateTime) (body : Body) (token : Option String) :
    Headers.BreakWith (dated utc.compactText (payloadHash body) token)
      (Fault.firstGiven [token]).toList := by
  have hhash : Text.IsOneLine (payloadHash body) := by
    cases body with
    | empty => exact Text.isOneLine_hex _
    | bytes data => exact Text.isOneLine_hex _
    | stream part =>
      show Text.IsOneLine unsignedPayload
      decide
  have hdate : Headers.BreakWith [("x-amz-date", utc.compactText)] [] :=
    .whole (by decide) (by decide) (Text.isOneLine_compactText utc)
  have hbody : Headers.BreakWith [("x-amz-content-sha256", payloadHash body)] [] :=
    .whole (by decide) (by decide) hhash
  exact hdate.append (hbody.append (breakWith_tokenHeader token))

/-- The names of the signed headers are those of the covered ones. -/
theorem snd_of_canonicalRequest {method path hash : String} {query : Query} {headers : Headers}
    {form : String × String} (h : canonicalRequest method path query headers hash = .ok form) :
    form.2 = ";".intercalate (sortedTexts (covered headers).keys) := by
  obtain ⟨_, -, h⟩ := exists_of_bind_eq_ok h
  dsimp only at h
  split at h
  · cases h
    rfl
  · cases h

/-- The names of the signed headers stand on one line when those of the request do. -/
theorem isOneLine_signedHeaders (hr : request.HasPlainNames) {host date hash method path : String}
    {token : Option String} {query : Query} {form : String × String}
    (hlines : Headers.AreLines request.headers.entries)
    (h : canonicalRequest method path query
      (withIdentity request.headers host date hash token) hash =
      .ok form) : Text.IsOneLine form.2 := by
  have hwritten : ∀ name ∈ Request.signingNames, Text.IsOneLine name := by decide
  rw [snd_of_canonicalRequest h]
  apply Text.isOneLine_intercalate rfl (by decide)
  intro k hk
  obtain ⟨p, hp, rfl⟩ := List.mem_map.1
    (Dict.mem_keys_ofList ((sortedTexts_perm _).subset hk))
  obtain ⟨e, he, rfl⟩ := List.mem_map.1 (List.mem_filter.1 hp).1
  rw [entries_withIdentity host date hash token hr, List.mem_append] at he
  rcases he with he | he
  · exact (hlines e he).1.lowered
  · -- a header that signing writes has a name that is known
    apply hwritten
    apply (map_lowered_sublist host date hash token "" .get .empty).subset
    apply List.mem_map_of_mem (f := fun p : String × String => Text.lowered p.1)
    rcases List.mem_cons.1 he with rfl | he
    · exact List.mem_append_right _ List.mem_cons_self
    · exact List.mem_append_left _ (List.mem_append_left _ he)

/-- The proof of a request breaks its line with the id of the key, the region and the service. -/
theorem isOneLine_proof {signedHeaders : String} (hsigned : Text.IsOneLine signedHeaders)
    (keyId : String) (utc : DateTime) (endpoint : Endpoint) (signature : Bytes) :
    Text.IsOneLine (s!"{algorithm} Credential={keyId}/{scope utc endpoint}, " ++
        s!"SignedHeaders={signedHeaders}, Signature={Hex.ofBytes signature}") ↔
      Headers.AreWhole [keyId, endpoint.region, endpoint.service] := by
  simp +decide [toString, scope, hsigned, Headers.AreWhole]

/-- **The current scheme adds the token, the id of the key, the region and the service as they
are.** -/
theorem breakWith_sent (hr : request.HasPlainNames)
    (h : sign request credentials endpoint time = .ok q)
    (hbreak : Headers.BreakWith request.headers.entries texts) :
    Headers.BreakWith q.headers.entries (texts ++ Signer.headerTexts .v4 credentials endpoint) := by
  obtain ⟨utc, -, h⟩ := exists_of_bind_eq_ok h
  obtain ⟨host, -, h⟩ := exists_of_bind_eq_ok h
  obtain ⟨form, hform, h⟩ := exists_of_bind_eq_ok h
  obtain ⟨url, -, rfl⟩ := finish_eq_ok h
  have hlength := breakWith_announced request.method (sentBody request)
  have hname : "Authorization" ≠ "" ∧ Text.IsOneLine "Authorization" := by decide
  dsimp only
  rw [entries_sent _ _ _ _ _ _ _ hr, attached, ← List.append_assoc, Signer.headerTexts,
    ← List.append_assoc]
  apply (hbreak.append (breakWith_dated utc (sentBody request) credentials.token)).append_of_lines
  · intro p hp
    rcases List.mem_cons.1 hp with rfl | hp
    · exact hname.1
    · exact hlength.named p hp
  · -- The proof names the covered headers, which are whole when the headers in front of it are.
    intro hlines
    have hsigned := isOneLine_signedHeaders hr (List.forall_mem_append.1 hlines).1 hform
    exact ((Headers.BreakWith.single hname.1 hname.2
      (isOneLine_proof hsigned credentials.keyId utc endpoint _)).append hlength).lines

end V4

end Signature

/-! ## Calls of the storage service -/

variable {request : Request} {credentials : Credentials} {endpoint : Endpoint} {time : DateTime}
  {q : SignedRequest} {texts : List String}

/-- Plain names without a date of their own are plain for a signature in a header. -/
theorem Request.HasPlainNames.isPlain (hr : request.HasPlainNames)
    (hdate : ∀ k ∈ request.headers.keys, Text.lowered k ≠ "date") :
    Signature.HeaderV2.IsPlain request where
  free := by
    have hsigning : ∀ n ∈ Signature.HeaderV2.writtenNames.tail,
        n ∈ Request.signingNames := by decide
    intro k hk hmem
    rcases List.mem_cons.1 hmem with hname | hmem
    · exact hdate k hk hname
    · exact hr.free k hk (hsigning _ hmem)
  keys := hr.keys

/-- **Whatever the scheme, the headers that are sent break their lines with the texts of the request
and of the signer.** -/
theorem Signer.breakWith_sent {signer : Signer} (hr : request.HasPlainNames)
    (hdate : ∀ k ∈ request.headers.keys, Text.lowered k ≠ "date")
    (h : signer.sign request credentials endpoint time = .ok q)
    (hbreak : Headers.BreakWith request.headers.entries texts) :
    Headers.BreakWith q.headers.entries (texts ++ signer.headerTexts credentials endpoint) := by
  cases signer with
  | headerV2 => exact Signature.HeaderV2.breakWith_sent (hr.isPlain hdate) h hbreak
  | queryV2 =>
    have hlength : "Content-Length" ∉ request.headers.keys := fun hmem => hr.free _ hmem (by decide)
    exact Signature.QueryV2.breakWith_sent hlength h hbreak
  | v4 => exact Signature.V4.breakWith_sent hr h hbreak

namespace StorageCall

/-- The headers of a request break their lines with the texts of its call. -/
theorem breakWith_request {call : StorageCall} {region : Option String} {r : Request}
    (h : call.request region = .ok r) : Headers.BreakWith r.headers.entries call.headerTexts := by
  rw [entries_of_request h]
  exact breakWith_headers call region

/-- **Headers are single lines unless a given text breaks one.** A call of the storage service is
refused, or becomes a request in which every header has a name; and the headers are single lines,
free of carriage returns, line feeds and NULs, exactly when the texts that the call is given for
them are. The same holds of the headers that are sent, whatever scheme signs the request, with the
texts of the signer besides. -/
theorem headers_break_with_given_texts (call : StorageCall) (region : Option String) :
    FailsAs Fault.IsRefusal (call.request region) ∧
    ∀ r, call.request region = .ok r →
      Headers.BreakWith r.headers.entries call.headerTexts ∧
      ∀ (signer : Signer) credentials endpoint time q,
        signer.sign r credentials endpoint time = .ok q →
          Headers.BreakWith q.headers.entries
            (call.headerTexts ++ signer.headerTexts credentials endpoint) := by
  refine ⟨failsAs_request call region, ?_⟩
  intro r hr
  refine ⟨breakWith_request hr, ?_⟩
  intro signer credentials endpoint time q hq
  exact Signer.breakWith_sent (hasPlainNames hr) (lowered_ne_date hr) hq (breakWith_request hr)

/-- An object whose metadata goes on like another header behind the end of its line. -/
def injectingPut : StorageCall :=
  .put "bucket1" "k1" (.bytes [0x78]) "" none (.ofList [("a", "1\r\nx-evil: 2")])

/-- The break of a line in a value of metadata is not refused. The request is signed, and the break
is sent under every scheme. -/
theorem injectingPut_is_not_refused :
    ∃ r, injectingPut.request none = .ok r ∧ ¬Headers.AreLines r.headers.entries ∧
      (∃ q, Signer.headerV2.sign r ⟨"id", "secret", none⟩ { url := "http://h", signature := .v2 }
        ⟨2024, 1, 1, 0, 0, 0, 0, some 0⟩ = .ok q) ∧
      ∀ (signer : Signer) credentials endpoint time q,
        signer.sign r credentials endpoint time = .ok q → ¬Headers.AreLines q.headers.entries := by
  have hbroken : ¬Headers.AreWhole injectingPut.headerTexts := by
    intro hwhole
    have hvalue : Text.IsOneLine "1\r\nx-evil: 2" := hwhole _ (by decide)
    revert hvalue
    decide
  have hvalid : Endpoint.validate { url := "http://h", signature := .v2 } = .ok () := rfl
  obtain ⟨r, hr, hpath⟩ : ∃ r, injectingPut.request none = .ok r ∧
    Signature.checkPath r.path = .ok () := ⟨_, rfl, rfl⟩
  have hplain := (hasPlainNames hr).isPlain (lowered_ne_date hr)
  have hrequest := breakWith_request hr
  refine ⟨r, hr, fun hlines => hbroken (hrequest.lines.1 hlines), ?_, ?_⟩
  · show ∃ q, Signature.HeaderV2.sign r ⟨"id", "secret", none⟩
      { url := "http://h", signature := .v2 } ⟨2024, 1, 1, 0, 0, 0, 0, some 0⟩ = .ok q
    rw [Signature.HeaderV2.exists_sign_iff hplain hvalid]
    exact ⟨hpath, _, rfl⟩
  · intro signer credentials endpoint time q hq hlines
    have hsent := Signer.breakWith_sent (hasPlainNames hr) (lowered_ne_date hr) hq hrequest
    exact hbroken fun s hs => hsent.lines.1 hlines s (List.mem_append_left _ hs)

end StorageCall

end CloudClient
