import CloudClient.Proofs.Signature.Headers
import CloudClient.Proofs.Signature.Signed
import CloudClient.Proofs.Wire

/-!
# Version 2 signatures of headers are verified from what is sent

A verifier signs the method, the path, the query and the headers of a message anew. The headers that
signing adds after the signature are not signed, and the date is read of the header that signing
adds before it. Main statement: whatever the clock of the verifier shows, what it computes is the
signature that was sent.
-/

namespace CloudClient

/-- A text that is given and not empty counts. -/
theorem Fault.firstGiven_of_ne {s : String} (h : s ≠ "") : firstGiven [some s] = some s := by
  rw [firstGiven, if_neg h]

/-- A date that is written is not empty. -/
theorem MailDate.write_ne_empty (t : DateTime) : MailDate.write t ≠ "" := by
  intro h
  have hzone := congrArg String.toList h
  rw [MailDate.write, String.toList_append] at hzone
  exact List.cons_ne_nil _ _ (List.append_eq_nil_iff.1 hzone).2

namespace Signature.HeaderV2

/-! ## Verifying -/

/-- The signature that is computed of a message when the clock shows a time. -/
def check? (secret : String) (clock : DateTime) (m : Wire.Message) : Option String := do
  let target ← Wire.target? m.url
  let text ← (stringToSign m.method target.path m.headers clock target.query).toOption
  return signature secret text

/-- The header that holds a signature. -/
def authorization (keyId proof : String) : String := s!"AWS {keyId}:{proof}"

/-! ## What is signed of headers and queries -/

/-- A header of this lowered name is signed. -/
def isSigned (name : String) : Bool :=
  isServiceHeader name || ["date", "content-md5", "content-type"].contains name

/-- Headers under lowered names of which the same is signed. -/
structure Agree (l l' : Headers) : Prop where
  names : l.keys.filter isServiceHeader = l'.keys.filter isServiceHeader
  values : ∀ k, isSigned k = true → l.get? k = l'.get? k

/-- Headers agree with themselves. -/
theorem Agree.refl (l : Headers) : Agree l l := ⟨rfl, fun _ _ => rfl⟩

/-- A header that is not signed makes no difference. -/
theorem Agree.put {l l' : Headers} (h : Agree l l') {k : String} (hk : isSigned k = false)
    (v : String) : Agree l (l'.put k v) where
  names := by
    have hservice : isServiceHeader k = false := (Bool.or_eq_false_iff.1 hk).1
    rw [h.names, Dict.keys_put]
    split
    · rfl
    · rw [List.filter_append, List.filter_cons_of_neg (by simp [hservice]), List.filter_nil,
        List.append_nil]
  values := by
    intro k' hk'
    have hne : k' ≠ k := by
      rintro rfl
      rw [hk] at hk'
      cases hk'
    rw [h.values k' hk', Dict.get?_put_of_ne _ hne]

/-- The lines of the service are those of the headers that are signed. -/
theorem serviceLines_congr {l l' : Headers} (h : Agree l l') :
    serviceLines l = serviceLines l' := by
  rw [serviceLines, serviceLines, ← h.names]
  refine congrArg String.join (List.map_congr_left fun k hk => ?_)
  have hservice : isServiceHeader k = true :=
    (List.mem_filter.1 ((sortedTexts_perm _).subset hk)).2
  rw [h.values k (by rw [isSigned, hservice, Bool.true_or])]

/-- The sub-resources of a query do not depend on the order of its entries. -/
theorem resource_congr {q r : Query} (h : q.entries.Perm r.entries) (path : String) :
    resource path q = resource path r := by
  have hkeys : sortedTexts (q.keys.filter subresources.contains) =
      sortedTexts (r.keys.filter subresources.contains) :=
    sortedTexts_congr ((h.map _).filter _)
  have hvalue : q.get? = r.get? := funext (Dict.get?_of_perm h)
  rw [resource, resource, hkeys, hvalue]

/-- **The text that is signed depends on the signed headers and on the query alone**, when a date is
among the headers: neither the other headers, nor the order of the query, nor the clock matter. -/
theorem stringToSign_congr {headers headers' : Headers} {q r : Query} {date : String}
    (hdate : header? "date" headers = some date) (hne : date ≠ "")
    (hheaders : Agree (lowered headers) (lowered headers')) (hquery : q.entries.Perm r.entries)
    (method path : String) (time clock : DateTime) :
    stringToSign method path headers time q = stringToSign method path headers' clock r := by
  have hlines := serviceLines_congr hheaders
  have hresource := resource_congr hquery path
  have hdate' : (lowered headers').get? "date" = some date := by
    rw [← hheaders.values _ (by decide)]
    exact hdate
  have hamz : (lowered headers).contains "x-amz-date" =
      (lowered headers').contains "x-amz-date" := by
    rw [Dict.contains, Dict.contains, hheaders.values _ (by decide)]
  unfold stringToSign
  dsimp only
  rw [show (lowered headers).get? "date" = some date from hdate, hdate', Fault.firstGiven_of_ne hne,
    hamz, hlines, hresource, hheaders.values "content-md5" (by decide),
    hheaders.values "content-type" (by decide)]

/-- A path that can be signed has a text to sign, when a date is among the headers. -/
theorem exists_stringToSign {headers : Headers} {path date : String}
    (hpath : checkPath path = .ok ()) (hdate : header? "date" headers = some date) (hne : date ≠ "")
    (method : Method) (time : DateTime) (query : Query) :
    ∃ text, stringToSign method.name path headers time query = .ok text := by
  unfold stringToSign
  dsimp only
  rw [hpath, show (lowered headers).get? "date" = some date from hdate, Fault.firstGiven_of_ne hne,
    Method.ofName?_name]
  split
  · exact ⟨_, rfl⟩
  · exact ⟨_, rfl⟩

/-! ## Signing -/

/-- The names in lower case of the headers that signing writes. -/
def writtenNames : List String :=
  ["date", "authorization", "content-length", "x-amz-security-token"]

/-- No header of a request has a name that signing writes, and no key of its query is empty. -/
structure IsPlain (request : Request) : Prop where
  free : ∀ k ∈ request.headers.keys, Text.lowered k ∉ writtenNames
  keys : "" ∉ request.query.keys

/-- The headers that are signed. -/
def dated (headers : Headers) (date : String) (token : Option String) : Headers :=
  match Fault.firstGiven [token] with
  | none => headers.put "Date" date
  | some token => (headers.put "Date" date).put "x-amz-security-token" token

variable {request : Request} {credentials : Credentials} {endpoint : Endpoint} {time : DateTime}
  {q : SignedRequest}

/-- Signing dates the headers, signs them, and adds the signature. -/
theorem sign_eq (request : Request) (credentials : Credentials) (endpoint : Endpoint)
    (time : DateTime) :
    sign request credentials endpoint time = (do
      let date ← (MailDate.header time).mapError .date
      let headers := dated request.headers date credentials.token
      let text ← stringToSign request.method.name request.path headers time request.query
      finish request endpoint
        (headers.put "Authorization"
          (authorization credentials.keyId (signature credentials.secret text)))
        request.body request.query) := by
  rw [sign]
  unfold dated
  cases Fault.firstGiven [credentials.token] with
  | none => rfl
  | some token => rfl

/-- What a request is signed from: the text of its headers with the date. -/
theorem sign_eq_ok (h : sign request credentials endpoint time = .ok q) :
    ∃ utc text, time.toUtc = .ok utc ∧
      stringToSign request.method.name request.path
        (dated request.headers (MailDate.write utc) credentials.token) time request.query =
          .ok text ∧
      finish request endpoint
        ((dated request.headers (MailDate.write utc) credentials.token).put "Authorization"
          (authorization credentials.keyId (signature credentials.secret text))) request.body
        request.query = .ok q := by
  rw [sign_eq] at h
  obtain ⟨date, hdate, h⟩ := exists_of_bind_eq_ok h
  obtain ⟨utc, hutc, hwritten⟩ := exists_of_bind_eq_ok (eq_ok_of_mapError hdate)
  obtain rfl : MailDate.write utc = date := Except.ok.inj hwritten
  obtain ⟨text, htext, h⟩ := exists_of_bind_eq_ok h
  exact ⟨utc, text, hutc, htext, h⟩

/-- A name that signing writes is new. -/
theorem IsPlain.isNew (hr : IsPlain request) {k : String} (hk : Text.lowered k ∈ writtenNames) :
    IsNew request.headers k := by
  intro hmem
  obtain ⟨k', hk', heq⟩ := List.mem_map.1 hmem
  exact hr.free k' hk' (heq ▸ hk)

/-- A name that signing writes is new until it is written. -/
theorem IsPlain.isNew_dated (hr : IsPlain request) {k : String} (hk : Text.lowered k ∈ writtenNames)
    (hdate : Text.lowered k ≠ "date") (htoken : Text.lowered k ≠ "x-amz-security-token")
    (date : String) (token : Option String) : IsNew (dated request.headers date token) k := by
  have hnew := (hr.isNew hk).put "Date" date hdate
  unfold dated
  split
  · exact hnew
  · exact hnew.put "x-amz-security-token" _ htoken

/-- The date is among the headers that are signed. -/
theorem IsPlain.header?_date (hr : IsPlain request) (date : String) (token : Option String) :
    header? "date" (dated request.headers date token) = some date := by
  have hnew : IsNew request.headers "Date" := hr.isNew (by decide)
  have hdate : header? "date" (request.headers.put "Date" date) = some date := by
    rw [header?, lowered_put hnew]
    exact Dict.get?_put_self _ _ _
  unfold dated
  split
  · exact hdate
  · have htoken : IsNew (request.headers.put "Date" date) "x-amz-security-token" :=
      (hr.isNew (by decide)).put "Date" date (by decide)
    rw [header?, lowered_put htoken, Dict.get?_put_of_ne _ (by decide)]
    exact hdate

/-- **The headers that are sent agree with those that were signed**, and hold the signature. -/
theorem IsPlain.agree_sent (hr : IsPlain request) (date : String) (token : Option String)
    (proof : String) (method : Method) (body : Body) :
    Agree (lowered (dated request.headers date token))
        (lowered (withLength method
          ((dated request.headers date token).put "Authorization" proof) body)) ∧
      header? "authorization" (withLength method
        ((dated request.headers date token).put "Authorization" proof) body) = some proof := by
  have hproof : IsNew (dated request.headers date token) "Authorization" :=
    hr.isNew_dated (by decide) (by decide) (by decide) date token
  have hlength : IsNew ((dated request.headers date token).put "Authorization" proof)
      "Content-Length" :=
    (hr.isNew_dated (by decide) (by decide) (by decide) date token).put "Authorization" proof
      (by decide)
  have hagree : Agree (lowered (dated request.headers date token))
      (lowered ((dated request.headers date token).put "Authorization" proof)) := by
    rw [lowered_put hproof]
    exact (Agree.refl _).put (by decide) proof
  have hread : header? "authorization"
      ((dated request.headers date token).put "Authorization" proof) = some proof := by
    rw [header?, lowered_put hproof]
    exact Dict.get?_put_self _ _ _
  -- Neither the signature nor the length, which comes after it, is signed.
  unfold withLength
  split
  · rw [header?, lowered_put hlength]
    refine ⟨hagree.put (by decide) _, ?_⟩
    rw [Dict.get?_put_of_ne _ (by decide)]
    exact hread
  · exact ⟨hagree, hread⟩

/-- **When signing succeeds.** A path that can be signed and a time that can be told are all that it
needs of a request for a valid endpoint. -/
theorem exists_sign_iff (hr : IsPlain request) (hvalid : endpoint.validate = .ok ()) :
    (∃ q, sign request credentials endpoint time = .ok q) ↔
      checkPath request.path = .ok () ∧ ∃ utc, time.toUtc = .ok utc := by
  constructor
  · rintro ⟨q, hq⟩
    obtain ⟨utc, text, hutc, htext, -⟩ := sign_eq_ok hq
    obtain ⟨_, hpath, -⟩ := exists_of_bind_eq_ok htext
    exact ⟨eq_ok_of_mapError hpath, utc, hutc⟩
  · rintro ⟨hpath, utc, hutc⟩
    obtain ⟨text, htext⟩ := exists_stringToSign hpath
      (hr.header?_date (MailDate.write utc) credentials.token) (MailDate.write_ne_empty utc)
      request.method time request.query
    have hheader : MailDate.header time = .ok (MailDate.write utc) := by
      rw [MailDate.header, hutc]
      rfl
    rw [sign_eq, hheader]
    show ∃ q, (stringToSign _ _ _ _ _ >>= fun text => finish _ _ _ _ _) = .ok q
    rw [htext]
    exact Wire.exists_finish_of_validate hvalid _ _ _ _

/-! ## Verification -/

/-- A message is verified: it holds a signature, and that is the one that is computed of it whatever
the clock shows. -/
def Verifies (credentials : Credentials) (m : Wire.Message) : Prop :=
  ∃ proof, header? "authorization" m.headers = some (authorization credentials.keyId proof) ∧
    ∀ clock, check? credentials.secret clock m = some proof

/-- **Signatures of headers are verified from what is sent, at any time.** A request whose headers
have none of the names that signing writes, and whose query has a name for every parameter, is
signed for a valid endpoint at every time that can be told when its path can be signed; and its
message alone gives the signature that was sent with it, whatever the clock of the verifier shows.
-/
theorem sign_verifies_at_any_time (request : Request) (credentials : Credentials)
    (endpoint : Endpoint) (time : DateTime) (hr : IsPlain request)
    (hvalid : endpoint.validate = .ok ()) :
    ((∃ q, sign request credentials endpoint time = .ok q) ↔
      checkPath request.path = .ok () ∧ ∃ utc, time.toUtc = .ok utc) ∧
    ∀ q, sign request credentials endpoint time = .ok q → Verifies credentials q.message := by
  refine ⟨exists_sign_iff hr hvalid, ?_⟩
  intro q hq
  obtain ⟨utc, text, -, htext, hfinish⟩ := sign_eq_ok hq
  obtain ⟨url, hurl, rfl⟩ := finish_eq_ok hfinish
  obtain ⟨_, hpath, -⟩ := exists_of_bind_eq_ok htext
  obtain ⟨rest, hpath⟩ := exists_of_checkPath (eq_ok_of_mapError hpath)
  obtain ⟨hagree, hproof⟩ := hr.agree_sent (MailDate.write utc) credentials.token
    (authorization credentials.keyId (signature credentials.secret text)) request.method
      request.body
  obtain ⟨host, r, -, htarget, hquery⟩ := Wire.exists_target_of_locator hvalid hpath hr.keys hurl
  refine ⟨signature credentials.secret text, hproof, ?_⟩
  intro clock
  -- The date is among the headers on both sides, so that neither clock is asked.
  have hsame := stringToSign_congr (hr.header?_date (MailDate.write utc) credentials.token)
    (MailDate.write_ne_empty utc) hagree hquery.symm request.method.name request.path time clock
  rw [check?, SignedRequest.message, htarget]
  simp only [Option.bind_eq_bind, Option.bind_some]
  rw [← hsame, htext]
  rfl

/-- The request for the rights to a stored object. -/
def rightsOf (key : String) : Request where
  operation := "Get"
  method := .get
  path := "/photos/" ++ key
  resource := "photos/" ++ key
  query := .ofList [("acl", none), ("versionId", some "")]
  headers := .ofList [("X-Amz-Meta-Note", "a  b")]

/-- A request with a bare flag and an empty value is verified after it was signed for a plain
endpoint. -/
theorem rightsOf_is_verified :
    IsPlain (rightsOf "a b") ∧
      Endpoint.validate { url := "http://h", signature := .v2 } = .ok () ∧
      ∃ q, sign (rightsOf "a b") ⟨"id", "secret", some "token"⟩
          { url := "http://h", signature := .v2 } ⟨2024, 1, 1, 0, 0, 0, 0, some 0⟩ = .ok q ∧
        Verifies ⟨"id", "secret", some "token"⟩ q.message := by
  have hplain : IsPlain (rightsOf "a b") := ⟨by decide, by decide⟩
  have hvalid : Endpoint.validate { url := "http://h", signature := .v2 } = .ok () := rfl
  obtain ⟨hsucceeds, hverifies⟩ := sign_verifies_at_any_time (rightsOf "a b")
    ⟨"id", "secret", some "token"⟩ _ ⟨2024, 1, 1, 0, 0, 0, 0, some 0⟩ hplain hvalid
  obtain ⟨q, hq⟩ := hsucceeds.2 ⟨rfl, _, rfl⟩
  exact ⟨hplain, hvalid, q, hq, hverifies q hq⟩

end Signature.HeaderV2

end CloudClient
