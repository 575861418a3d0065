import CloudClient.Calendar.MailDate
import CloudClient.Credentials
import CloudClient.Encoding.Binary
import CloudClient.Hash.Sha1
import CloudClient.Signature.Signed

/-!
# Version 2 signatures in a header

The older scheme of the storage service signs the method, a few headers, the date, the headers of
the service, and the path with the sub-resources that the query names.
-/

namespace CloudClient.Signature.HeaderV2

/-- The keys of a query that name a part of a resource. -/
def subresources : List String :=
  ["acl", "cors", "delete", "lifecycle", "location", "logging", "notification", "partNumber",
    "policy", "requestPayment", "response-cache-control", "response-content-disposition",
    "response-content-encoding", "response-content-language", "response-content-type",
    "response-expires", "tagging", "torrent", "uploadId", "uploads", "versionId", "versioning",
    "versions", "website"]

/-- The lines of the headers of the service, in ascending order of their names. -/
def serviceLines (lowered : Headers) : String :=
  String.join <| (sortedTexts (lowered.keys.filter isServiceHeader)).map fun k =>
    headerLine k ((lowered.get? k).getD "")

/-- A sub-resource as it is signed: its value is not encoded. -/
def subresource (key : String) : Option String → String
  | none => key
  | some v => s!"{key}={v}"

/-- The path with the sub-resources of the query. -/
def resource (path : String) (query : Query) : String :=
  match sortedTexts (query.keys.filter subresources.contains) with
  | [] => Percent.path path
  | ks =>
    Percent.path path ++ "?" ++
      "&".intercalate (ks.map fun k => subresource k ((query.get? k).getD none))

/-- The text that is signed. A date header of the service leaves the line of the date empty; a
date header that is given takes the place of the time of signing. -/
def stringToSign (method path : String) (headers : Headers) (time : DateTime) (query : Query) :
    Except Failure String := do
  (checkPath path).mapError .fault
  let lowered := lowered headers
  let date ←
    if lowered.contains "x-amz-date" then pure ""
    else
      match Fault.firstGiven [lowered.get? "date"] with
      | some d => pure d
      | none => (MailDate.header time).mapError .date
  let some m := Method.ofName? method | .error (.unknownMethod method)
  return lines
    [m.name, (lowered.get? "content-md5").getD "", (lowered.get? "content-type").getD "", date,
      serviceLines lowered ++ resource path query]

/-- The signature of a text under a secret. -/
def signature (secret text : String) : String :=
  Base64.ofBytes (Hash.hmacSha1 (Utf8.ofString secret) (Utf8.ofString text))

/-- Signs a request at a time. -/
def sign (request : Request) (credentials : Credentials) (endpoint : Endpoint) (time : DateTime) :
    Except Failure SignedRequest := do
  let date ← (MailDate.header time).mapError .date
  let headers := request.headers.put "Date" date
  let headers :=
    match Fault.firstGiven [credentials.token] with
    | none => headers
    | some token => headers.put "x-amz-security-token" token
  let text ← stringToSign request.method.name request.path headers time request.query
  let headers :=
    headers.put "Authorization" s!"AWS {credentials.keyId}:{signature credentials.secret text}"
  finish request endpoint headers request.body request.query

end CloudClient.Signature.HeaderV2
