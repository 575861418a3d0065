import CloudClient.Config
import CloudClient.Credentials
import CloudClient.Listing.Cursor
import CloudClient.Number.Reading
import CloudClient.Record.Field
import CloudClient.Retry.Policy

/-!
# Records of configurations

Endpoints, credentials and settings as objects, written with every field and read with a default
for each that is missing. A setting that no kind of settings has is refused. A duration or a factor
becomes a double-precision number: it may be given as any number, as a truth value, or as a text
that reads as a number, and an integer that is too large is refused.
-/

namespace CloudClient

/-! ## Numbers -/

namespace Json

/-- The double-precision number that a value stands for. -/
def toNumber (v : Json) : Except Failure Binary64 :=
  match v with
  | .int n => floatOfInt n
  | .float x => .ok x
  | .bool b => .ok (.ofInt (if b then 1 else 0))
  | .text s => (readNumber s).mapError fun e => .foreign ⟨"ValueError", e.message⟩
  | v =>
    .error (.foreign ⟨"TypeError",
      s!"float() argument must be a string or a real number, not '{v.kindName}'"⟩)

/-- The number of a field, or a default when the field is missing. -/
def numberAt (v : Json) (k : String) (default : Binary64) : Except Failure Binary64 :=
  match v.field? k with
  | some x => x.toNumber
  | none => .ok default

end Json

/-! ## Settings -/

/-- The record of an endpoint. -/
def Endpoint.record (e : Endpoint) : Json :=
  .object
    [("url", .text e.url), ("region", .text e.region), ("service", .text e.service),
      ("signature_version", .text e.signature.name)]

/-- Reads an endpoint; its service has a default. -/
def Endpoint.ofRecord (v : Json) (service : String := "s3") : Endpoint :=
  { url := v.textAt "url"
    region := v.textAt "region" defaultRegion
    service := v.textAt "service" service
    signature := .ofName (v.textAt "sig" "v4") }

/-- The record of credentials. -/
def Credentials.record (c : Credentials) : Json :=
  .object
    [("access_key_id", .text c.keyId), ("secret_access_key", .text c.secret),
      ("session_token", .ofText? c.token)]

/-- Reads credentials. -/
def Credentials.ofRecord (v : Json) : Credentials :=
  { keyId := v.textAt "akid", secret := v.textAt "secret", token := v.textAt? "token" }

/-- The record of the transport settings. -/
def TransportConfig.record (t : TransportConfig) : Json :=
  .object
    [("connect_timeout_s", .ofFloat t.connectTimeout),
      ("request_timeout_s", .ofFloat t.requestTimeout), ("pool_size", .int t.poolSize),
      ("chunk_size", .int t.chunkSize), ("verify_ssl", .bool t.verifiesCertificates)]

/-- The settings under the given names belong to a kind of settings that has these. -/
def checkSettings (kind : String) (names : List String) (v : Json) : Except Failure Unit :=
  let p : Parameters := { call := kind ++ ".__init__", required := [], optional := names }
  (p.check v.toDict.keys).mapError .argument

/-- Reads transport settings. -/
def TransportConfig.ofRecord (v : Json) : Except Failure TransportConfig := do
  let d : TransportConfig := {}
  let connectTimeout ← v.numberAt "connect_timeout_s" d.connectTimeout
  let requestTimeout ← v.numberAt "request_timeout_s" d.requestTimeout
  checkSettings "TransportConfig"
    ["connect_timeout_s", "request_timeout_s", "pool_size", "chunk_size", "verify_ssl"] v
  return {
    connectTimeout
    requestTimeout
    poolSize := v.intAt "pool_size" d.poolSize
    chunkSize := v.intAt "chunk_size" d.chunkSize
    verifiesCertificates := v.boolAt "verify_ssl" d.verifiesCertificates }

/-- The record of the retry settings. -/
def RetryConfig.record (r : RetryConfig) : Json :=
  .object
    [("max_retries", .int r.maxRetries), ("base_delay_ms", .int r.baseDelay),
      ("max_delay_ms", .int r.maxDelay), ("jitter", .bool r.jitter)]

/-- Reads retry settings. -/
def RetryConfig.ofRecord (v : Json) : Except Failure RetryConfig := do
  let d : RetryConfig := {}
  checkSettings "RetryConfig" ["max_retries", "base_delay_ms", "max_delay_ms", "jitter"] v
  return {
    maxRetries := v.intAt "max_retries" d.maxRetries
    baseDelay := v.intAt "base_delay_ms" d.baseDelay
    maxDelay := v.intAt "max_delay_ms" d.maxDelay
    jitter := v.boolAt "jitter" d.jitter }

/-- The record of a configuration. -/
def Config.record (c : Config) : Json :=
  .object
    [("s3", c.storage.record), ("sqs", c.queue.record), ("transport", c.transport.record),
      ("retry", c.retry.record)]

/-- Reads a configuration; the endpoints of a region stand in for those that are missing. -/
def Config.ofRecord (v : Json) : Except Failure Config := do
  let base : Config :=
    match (v.field "for_region").items with
    | [.text region] => .forRegion region .v4
    | [.text region, .text signature] => .forRegion region (.ofName signature)
    | _ => {}
  return {
    storage := ((v.given? "s3").map fun e => .ofRecord e "s3").getD base.storage
    queue := ((v.given? "sqs").map fun e => .ofRecord e "sqs").getD base.queue
    transport := ← TransportConfig.ofRecord (v.field "transport")
    retry := ← RetryConfig.ofRecord (v.field "retry") }

/-- The record of a retry policy. -/
def RetryPolicy.record (p : RetryPolicy) : Json :=
  .object
    [("max_retries", .int p.maxRetries), ("base_delay_ms", .int p.baseDelay),
      ("max_delay_ms", .int p.maxDelay), ("exponential_base", .ofFloat p.exponentialBase),
      ("jitter", .bool p.jitter)]

/-- Reads a retry policy. -/
def RetryPolicy.ofRecord (v : Json) : Except Failure RetryPolicy := do
  let d : RetryPolicy := {}
  let exponentialBase ← v.numberAt "exponential_base" d.exponentialBase
  checkSettings "RetryPolicy"
    ["max_retries", "base_delay_ms", "max_delay_ms", "exponential_base", "jitter"] v
  return {
    maxRetries := v.intAt "max_retries" d.maxRetries
    baseDelay := v.intAt "base_delay_ms" d.baseDelay
    maxDelay := v.intAt "max_delay_ms" d.maxDelay
    exponentialBase
    jitter := v.boolAt "jitter" d.jitter }

/-- The record of a question for a page. -/
def PageQuery.record (q : PageQuery) : Json :=
  .object
    [("prefix", .text q.keyPrefix), ("delimiter", .ofText? q.delimiter),
      ("marker", .text q.marker), ("max_keys", q.maxKeys.fixed)]

end CloudClient
