import CloudClient.Credentials
import CloudClient.Encoding.Binary
import CloudClient.Hash.Sha256
import CloudClient.Signature.Signed

/-!
# Version 4 signatures

The current scheme signs a canonical request: the method, the path, the query, the covered headers
and the hash of the body. The key of the signature is derived from the secret, the day, the region
and the service. The bytes of a streamed body are not signed.
-/

namespace CloudClient.Signature.V4

/-- The name of the scheme. -/
def algorithm : String := "AWS4-HMAC-SHA256"

/-- What stands for the hash of a streamed body. -/
def unsignedPayload : String := "UNSIGNED-PAYLOAD"

/-- The headers that are covered besides those of the service. -/
def coveredNames : List String :=
  ["host", "content-md5", "content-type", "if-match", "if-none-match", "range"]

/-- A header of this lowered name is covered by the signature. -/
def isCovered (name : String) : Bool := coveredNames.contains name || isServiceHeader name

/-- The covered headers under their lowered names. -/
def covered (headers : Headers) : Headers :=
  .ofList <| (headers.entries.map fun (k, v) => (Text.lowered k, v)).filter fun p => isCovered p.1

/-- The canonical request and the names of the headers in it. -/
def canonicalRequest (method path : String) (query : Query) (headers : Headers)
    (payloadHash : String) : Except Failure (String × String) := do
  (checkPath path).mapError .fault
  let covered := covered headers
  let names := sortedTexts covered.keys
  let signedHeaders := ";".intercalate names
  let some m := Method.ofName? method | .error (.unknownMethod method)
  return (lines
    [m.name, Percent.path path, query.canonical,
      String.join (names.map fun k => headerLine k ((covered.get? k).getD "")), signedHeaders,
      payloadHash], signedHeaders)

/-- The scope in which a signature holds. -/
def scope (utc : DateTime) (endpoint : Endpoint) : String :=
  s!"{utc.compactDate}/{endpoint.region}/{endpoint.service}/aws4_request"

/-- The key of a signature. -/
def signingKey (secret : String) (utc : DateTime) (region service : String) : Bytes :=
  [utc.compactDate, region, service, "aws4_request"].foldl
    (fun key text => Hash.hmacSha256 key (Utf8.ofString text)) (Utf8.ofString ("AWS4" ++ secret))

/-- The hash of a body. -/
def payloadHash : Body → String
  | .empty => Hex.ofBytes (Hash.Sha256.digest [])
  | .bytes data => Hex.ofBytes (Hash.Sha256.digest data)
  | .stream _ => unsignedPayload

/-- The text that is signed. -/
def stringToSign (utc : DateTime) (scope canonical : String) : String :=
  lines
    [algorithm, utc.compactText, scope,
      Hex.ofBytes (Hash.Sha256.digest (Utf8.ofString canonical))]

/-- The body that is sent: a form becomes its canonical query. -/
def sentBody (request : Request) : Body :=
  match request.form with
  | none => request.body
  | some form => .bytes (Utf8.ofString (formQuery form).canonical)

/-- The headers that are added before signing. -/
def withIdentity (headers : Headers) (host date payloadHash : String) (token : Option String) :
    Headers :=
  let headers :=
    headers.putAll [("Host", host), ("x-amz-date", date), ("x-amz-content-sha256", payloadHash)]
  match Fault.firstGiven [token] with
  | none => headers
  | some token => headers.put "x-amz-security-token" token

/-- Signs a request at a time. The host is signed, and sent as part of the locator alone. -/
def sign (request : Request) (credentials : Credentials) (endpoint : Endpoint) (time : DateTime) :
    Except Failure SignedRequest := do
  let body := sentBody request
  let payloadHash := payloadHash body
  let utc ← time.toUtc.mapError .date
  let host ← endpoint.host.mapError .uri
  let headers :=
    withIdentity request.headers host utc.compactText payloadHash credentials.token
  let (canonical, signedHeaders) ←
    canonicalRequest request.method.name request.path request.query headers payloadHash
  let scope := scope utc endpoint
  let key := signingKey credentials.secret utc endpoint.region endpoint.service
  let signature := Hex.ofBytes
    (Hash.hmacSha256 key (Utf8.ofString (stringToSign utc scope canonical)))
  let authorization :=
    s!"{algorithm} Credential={credentials.keyId}/{scope}, " ++
      s!"SignedHeaders={signedHeaders}, Signature={signature}"
  finish request endpoint ((headers.put "Authorization" authorization).erase "Host") body
    request.query

end CloudClient.Signature.V4
