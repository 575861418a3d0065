import CloudClient.Decode.Header
import CloudClient.Proofs.Calendar.Instant
import CloudClient.Proofs.Calendar.IsoDate
import CloudClient.Proofs.Calendar.MailDate
import CloudClient.Proofs.Signature.HeaderV2
import CloudClient.Proofs.Signature.ServiceLines
import CloudClient.Proofs.Signature.Verification

/-!
# Signatures and the moments of signing

A signature says when it was made, down to the second and on a clock that shows UTC. Main
statements: two times that denote moments of one second sign every request alike, a version 4
signature is of the day with which its date begins, and the dates that are written are read back as
the second of signing.
-/

namespace CloudClient

open DateTime (secondMicros)

variable {request : Request} {credentials : Credentials} {endpoint : Endpoint} {t u : DateTime}
  {q : SignedRequest}

/-! ## Signing within a second -/

/-- A date in a header is told down to the second. -/
theorem MailDate.header_congr (h : t.SameSecond u) : header t = header u :=
  bind_congr_of_map DateTime.wholeSecond (fun _ => rfl) h

namespace Signature

/-- Of the time, a signature in a header depends on the date alone. -/
theorem HeaderV2.sign_congr (h : MailDate.header t = MailDate.header u) :
    sign request credentials endpoint t = sign request credentials endpoint u := by
  have htext : ∀ headers, stringToSign request.method.name request.path headers t request.query =
      stringToSign request.method.name request.path headers u request.query := by
    intro headers
    rw [stringToSign_eq, stringToSign_eq, dateText, dateText, h]
  simp only [sign_eq, h, htext]

/-- The parameters of the signer tell the time down to the second. -/
theorem QueryV2.identity_congr (h : t.SameSecond u) :
    identity credentials t = identity credentials u :=
  bind_congr_of_map DateTime.wholeSecond (fun _ => rfl) h

/-- Of the time, a signature of parameters depends on those of the signer alone. -/
theorem QueryV2.sign_congr (h : identity credentials t = identity credentials u) :
    sign request credentials endpoint t = sign request credentials endpoint u := by
  rw [sign, sign, h]

/-- A version 4 signature tells the time down to the second. -/
theorem V4.sign_congr (h : t.SameSecond u) :
    sign request credentials endpoint t = sign request credentials endpoint u := by
  -- What follows the UTC time writes its compact text and its day, neither of which has the
  -- microseconds.
  have hutc : (t.toUtc.mapError Failure.date).map DateTime.wholeSecond =
      (u.toUtc.mapError Failure.date).map DateTime.wholeSecond := by
    rw [map_mapError, map_mapError, show t.toUtc.map _ = u.toUtc.map _ from h]
  exact bind_congr_of_map DateTime.wholeSecond (fun _ => rfl) hutc

/-- **Times with the same second in UTC sign every request alike**, whatever the scheme. -/
theorem sign_congr (signer : Signer) (h : t.SameSecond u) :
    signer.sign request credentials endpoint t = signer.sign request credentials endpoint u := by
  cases signer with
  | headerV2 => exact HeaderV2.sign_congr (MailDate.header_congr h)
  | queryV2 => exact QueryV2.sign_congr (QueryV2.identity_congr h)
  | v4 => exact V4.sign_congr h

/-! ## The day of a version 4 signature -/

/-- The length of a body leaves the other headers. -/
theorem get?_withLength (method : Method) (headers : Headers) (body : Body) {k : String}
    (h : k ≠ "Content-Length") : (withLength method headers body).get? k = headers.get? k := by
  unfold withLength
  split
  · exact Dict.get?_put_of_ne headers h _
  · rfl

namespace V4

/-- The header of a signature that is made in the scope and with the key of a day. -/
def proofOfDay (credentials : Credentials) (endpoint : Endpoint) (day names text : String) :
    String :=
  let scope := dayScope day endpoint.region endpoint.service
  let key := dayKey credentials.secret day endpoint.region endpoint.service
  let signature := Hex.ofBytes (Hash.hmacSha256 key (Utf8.ofString text))
  s!"{algorithm} Credential={credentials.keyId}/{scope}, " ++
    s!"SignedHeaders={names}, Signature={signature}"

/-- A signed request is of a day: its date begins with the day, up to the first letter T, and its
signature is of that day. -/
structure IsOfDay (credentials : Credentials) (endpoint : Endpoint) (day : String)
    (q : SignedRequest) : Prop where
  ends : 'T' ∉ day.toList
  date : ∃ clock : String, q.headers.get? "x-amz-date" = some s!"{day}T{clock}"
  proof : ∃ names text : String,
    q.headers.get? "Authorization" = some (proofOfDay credentials endpoint day names text)

/-- The date is among the headers that are signed. -/
theorem get?_date_withIdentity (headers : Headers) (host date hash : String)
    (token : Option String) :
    (withIdentity headers host date hash token).get? "x-amz-date" = some date := by
  have hnamed : (headers.putAll [("Host", host), ("x-amz-date", date),
      ("x-amz-content-sha256", hash)]).get? "x-amz-date" = some date := by
    rw [Dict.get?_putAll (by simp)]
    rfl
  unfold withIdentity
  split
  · exact hnamed
  · rw [Dict.get?_put_of_ne _ (by decide)]
    exact hnamed

/-- **A signature is of the day of its UTC time.** -/
theorem isOfDay_of_sign (h : sign request credentials endpoint t = .ok q) :
    ∃ utc, t.toUtc = .ok utc ∧ IsOfDay credentials endpoint utc.compactDate q := by
  obtain ⟨utc, hutc, h⟩ := exists_of_bind_eq_ok h
  obtain ⟨host, -, h⟩ := exists_of_bind_eq_ok h
  obtain ⟨⟨canonical, names⟩, -, h⟩ := exists_of_bind_eq_ok h
  obtain ⟨url, -, rfl⟩ := finish_eq_ok h
  refine ⟨utc, eq_ok_of_mapError hutc, ?_, ?_, ?_⟩
  · intro hmem
    cases DateTime.isDigit_of_mem_compactDate hmem
  · refine ⟨DateTime.padded 2 utc.hour ++ DateTime.padded 2 utc.minute ++
      DateTime.padded 2 utc.second ++ "Z", ?_⟩
    rw [get?_withLength _ _ _ (by decide), Dict.get?_erase_of_ne (by decide),
      Dict.get?_put_of_ne _ (by decide), get?_date_withIdentity, DateTime.compactText]
    simp only [String.append_assoc, toString]
  · refine ⟨names, stringToSign utc (scope utc endpoint) canonical, ?_⟩
    rw [get?_withLength _ _ _ (by decide), Dict.get?_erase_of_ne (by decide), Dict.get?_put_self]
    rfl

end V4

/-! ## Times that are signed alike -/

/-- The request for the list of all buckets. -/
def listing : Request where
  operation := "ListBuckets"
  method := .get
  path := "/"
  resource := ""

/-- Half an hour after midnight on the first day of March, an hour east of UTC. -/
def afterMidnight : DateTime := ⟨2024, 3, 1, 0, 30, 0, 5, some 3600000000⟩

/-- The same moment in UTC: it is still the leap day. -/
def leapDay : DateTime := ⟨2024, 2, 29, 23, 30, 0, 5, some 0⟩

/-- The same second on a clock that is not known. -/
def beforeMidnight : DateTime := ⟨2024, 2, 29, 23, 30, 0, 999999, none⟩

/-- A time of the very first day on a clock that is not known signs nothing. -/
theorem sign_of_isFirstUnknown (signer : Signer) (h : t.IsFirstUnknown) :
    signer.sign request credentials endpoint t = .error (.date (.year 0)) := by
  -- Every scheme asks for the UTC time before anything else.
  have hutc : ∀ {β : Type} (f : DateTime → Except DateError β),
      (t.toUtc >>= f).mapError Failure.date = .error (.date (.year 0)) := by
    intro β f
    rw [h.toUtc_eq]
    rfl
  cases signer with
  | headerV2 =>
    rw [Signer.sign, HeaderV2.sign_eq, MailDate.header, hutc]
    rfl
  | queryV2 =>
    rw [Signer.sign, QueryV2.sign, QueryV2.identity, hutc]
    rfl
  | v4 =>
    rw [Signer.sign, V4.sign, h.toUtc_eq]
    rfl

/-- Noon of the very first day. -/
def firstNoon (offset : Option Int) : DateTime := ⟨1, 1, 1, 12, 0, 0, 0, offset⟩

/-- The signer says the extended text of the UTC time. -/
theorem QueryV2.exists_identity (credentials : Credentials) (h : t.toUtc = .ok u) :
    ∃ signer, identity credentials t = .ok signer ∧ signer.get? "Timestamp" = some u.zuluText := by
  rw [identity, h]
  refine ⟨_, rfl, ?_⟩
  split
  · rfl
  · rw [Dict.get?_put_of_ne _ (by decide)]
    rfl

/-- **The dates that are written are read back as the second of signing.** When a time denotes the
moment of a UTC time with a year of four digits, its date in a header and the timestamp of the
signer are both read as that UTC time without its microseconds. -/
theorem written_dates_are_read_back (credentials : Credentials) {t u : DateTime} (h : t.IsSound)
    (hu : u.IsSound) (hutc : u.offset = some 0) (hsame : u.instant = t.instant)
    (hyear : 1000 ≤ u.year) :
    (∃ text, MailDate.header t = .ok text ∧ Header.date (some text) = .ok (some u.wholeSecond)) ∧
    ∃ signer text, QueryV2.identity credentials t = .ok signer ∧
      signer.get? "Timestamp" = some text ∧ IsoDate.read? text = some u.wholeSecond := by
  have hfirst : ¬t.IsFirstUnknown := h.not_isFirstUnknown hu hutc hsame (by omega)
  have htoUtc : t.toUtc = .ok u := h.toUtc_eq_ok hfirst hu hutc hsame
  constructor
  · refine ⟨MailDate.write u, bind_of_eq_ok htoUtc _, ?_⟩
    have hgiven : (MailDate.write u).isEmpty = false := by
      rw [String.isEmpty_eq_false_iff]
      exact MailDate.write_ne_empty u
    simp only [Header.date, hgiven, Bool.false_eq_true, if_false]
    exact MailDate.read_write hu hutc (by omega)
  · obtain ⟨signer, hsigner, htext⟩ := QueryV2.exists_identity credentials htoUtc
    exact ⟨signer, u.zuluText, hsigner, htext, IsoDate.read?_zuluText hu hutc hyear⟩

/-- The time after midnight is read back in the last half hour of the leap day. -/
theorem afterMidnight_is_read_back :
    afterMidnight.IsSound ∧ leapDay.IsSound ∧ leapDay.offset = some 0 ∧
      leapDay.instant = afterMidnight.instant ∧ 1000 ≤ leapDay.year ∧
      (∃ text, MailDate.header afterMidnight = .ok text ∧
        Header.date (some text) = .ok (some ⟨2024, 2, 29, 23, 30, 0, 0, some 0⟩)) ∧
      ∃ signer text, QueryV2.identity ⟨"id", "secret", none⟩ afterMidnight = .ok signer ∧
        signer.get? "Timestamp" = some text ∧
        IsoDate.read? text = some ⟨2024, 2, 29, 23, 30, 0, 0, some 0⟩ := by
  have hafter : afterMidnight.IsSound := by decide
  have hleap : leapDay.IsSound := by decide
  exact ⟨hafter, hleap, rfl, by decide, by decide,
    written_dates_are_read_back ⟨"id", "secret", none⟩ hafter hleap rfl (by decide) (by decide)⟩

end Signature

end CloudClient
