import CloudClient.Endpoint
import CloudClient.Signature.Canonical

/-!
# Signed requests

A signed request is ready to be sent: its locator is absolute and encoded, and its headers hold
the proof of who sends it.
-/

namespace CloudClient

/-- A request that is ready to be sent. -/
structure SignedRequest where
  method : Method
  url : String
  headers : Headers
  body : Body
  operation : String
  resource : String
  isIdempotent : Bool
  deriving DecidableEq

namespace SignedRequest

/-- The request can be sent a second time without harm: repeating it changes nothing, and its
body is still there. -/
def isRepeatable (r : SignedRequest) : Bool := r.isIdempotent && r.body.isReplayable

end SignedRequest

namespace Signature

/-- The locator of a path and a query at an endpoint. -/
def locator (endpoint : Endpoint) (path : String) (query : Query) : Except Failure String := do
  let scheme ← endpoint.scheme.mapError .uri
  let host ← endpoint.host.mapError .uri
  let base := s!"{scheme}://{host}{Percent.path path}"
  let written := query.wire
  return if written.isEmpty then base else s!"{base}?{written}"

/-- The length of a body is announced when it is not zero, and always with methods that send
bodies. -/
def withLength (method : Method) (headers : Headers) (body : Body) : Headers :=
  if body.length != 0 || method == .put || method == .post then
    headers.put "Content-Length" (toString body.length)
  else headers

/-- The signed request, with its locator and its length. -/
def finish (request : Request) (endpoint : Endpoint) (headers : Headers) (body : Body)
    (query : Query) : Except Failure SignedRequest := do
  let url ← locator endpoint request.path query
  return {
    method := request.method
    url
    headers := withLength request.method headers body
    body
    operation := request.operation
    resource := request.resource
    isIdempotent := request.isIdempotent }

end Signature

end CloudClient
