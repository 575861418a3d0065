import CloudClient.Signature.HeaderV2
import CloudClient.Signature.QueryV2
import CloudClient.Signature.V4

/-!
# Signing

The endpoint says which scheme signs its requests.
-/

namespace CloudClient

/-- The signature schemes. -/
inductive Signer where
  /-- The older scheme of the storage service. -/
  | headerV2
  /-- The older scheme of the queue service. -/
  | queryV2
  | v4
  deriving DecidableEq, Repr, Inhabited

namespace Signer

/-- The scheme that an endpoint is configured for. -/
def ofEndpoint (e : Endpoint) : Signer :=
  if e.signature = .v4 then v4 else if e.service = "sqs" then queryV2 else headerV2

/-- Signs a request for an endpoint at a time. -/
def sign (signer : Signer) (request : Request) (credentials : Credentials) (endpoint : Endpoint)
    (time : DateTime) : Except Failure SignedRequest :=
  match signer with
  | headerV2 => Signature.HeaderV2.sign request credentials endpoint time
  | queryV2 => Signature.QueryV2.sign request credentials endpoint time
  | v4 => Signature.V4.sign request credentials endpoint time

end Signer

end CloudClient
