import CloudClient.Credentials
import CloudClient.Encoding.Binary
import CloudClient.Hash.Sha256
import CloudClient.Signature.Signed

/-!
# Version 2 signatures in a form

The older scheme of the queue service signs the method, the host, the path and all parameters, and
adds the signature to the parameters. They travel in the form when there is one, and else in the
query.
-/

namespace CloudClient.Signature.QueryV2

/-- The text that is signed. -/
def stringToSign (method host path : String) (parameters : Dict String) :
    Except Failure String := do
  (checkPath path).mapError .fault
  let some m := Method.ofName? method | .error (.unknownMethod method)
  return lines
    [m.name, Text.lowered host, Percent.path path, (formQuery parameters).canonical]

/-- The signature of a text under a secret. -/
def signature (secret text : String) : String :=
  Base64.ofBytes (Hash.hmacSha256 (Utf8.ofString secret) (Utf8.ofString text))

/-- The parameters that say who signs, how, and when. -/
def identity (credentials : Credentials) (time : DateTime) : Except DateError (Dict String) := do
  let utc ← time.toUtc
  let parameters : Dict String := .ofList
    [("AWSAccessKeyId", credentials.keyId), ("SignatureVersion", "2"),
      ("SignatureMethod", "HmacSHA256"), ("Timestamp", utc.zuluText)]
  return match Fault.firstGiven [credentials.token] with
    | none => parameters
    | some token => parameters.put "SecurityToken" token

/-- All parameters of a request but the signature: those of the form, of the signer and of the
query, later ones in place of earlier ones. -/
def parameters (request : Request) (signer : Dict String) : Dict String :=
  (((request.form.getD .empty).merge signer).merge
    (request.query.mapValues fun v => v.getD ""))

/-- Signs a request at a time. -/
def sign (request : Request) (credentials : Credentials) (endpoint : Endpoint) (time : DateTime) :
    Except Failure SignedRequest := do
  let signer ← (identity credentials time).mapError .date
  let parameters := parameters request signer
  let host ← endpoint.host.mapError .uri
  let text ← stringToSign request.method.name host request.path parameters
  let signed := parameters.put "Signature" (signature credentials.secret text)
  match request.form with
  | some _ =>
    let body : Body := .bytes (Utf8.ofString (formQuery signed).canonical)
    finish request endpoint request.headers body .empty
  | none => finish request endpoint request.headers request.body (formQuery signed)

end CloudClient.Signature.QueryV2
