import CloudClient.Dict
import CloudClient.Endpoint
import CloudClient.Number.Reading
import CloudClient.Number.Shortest
import CloudClient.Text.Blank

/-!
# Configuration

One configuration serves every connection of a factory: the endpoints of the two services, the
limits of the transport and the bounds of the retries. It can be read from the environment.
-/

namespace CloudClient

/-- The variables of an environment. -/
abbrev Environment := Dict String

/-- The limits of the transport; timeouts are in seconds and sizes in bytes. -/
structure TransportConfig where
  connectTimeout : Binary64 := .ofInt 5
  requestTimeout : Binary64 := .ofInt 60
  poolSize : Int := 32
  chunkSize : Int := 65536
  verifiesCertificates : Bool := true
  deriving DecidableEq, Repr

/-- The bounds of the retries; delays are in milliseconds. -/
structure RetryConfig where
  maxRetries : Int := 3
  baseDelay : Int := 100
  maxDelay : Int := 10000
  jitter : Bool := true
  deriving DecidableEq, Repr

/-- The public endpoint of the storage service in a region. -/
def storageUrl (region : String) : String := s!"https://s3.{region}.amazonaws.com"

/-- The public endpoint of the queue service in a region. -/
def queueUrl (region : String) : String := s!"https://sqs.{region}.amazonaws.com"

/-- A whole configuration. -/
structure Config where
  storage : Endpoint := { url := storageUrl defaultRegion, service := "s3" }
  queue : Endpoint := { url := queueUrl defaultRegion, service := "sqs" }
  transport : TransportConfig := {}
  retry : RetryConfig := {}
  deriving DecidableEq, Repr

namespace Config

/-- The public endpoints of one region. -/
def forRegion (region : String) (signature : SignatureVersion) : Config :=
  { storage := { url := storageUrl region, region, service := "s3", signature }
    queue := { url := queueUrl region, region, service := "sqs", signature } }

/-! ## Validation -/

/-- Both endpoints are valid, timeouts are positive, sizes are at least one, and the bounds of the
retries are in order. A timeout that is no number is not refused. -/
def validate (c : Config) : Except ConfigError Unit := do
  let refuse (p : ConfigProblem) : Except ConfigError Unit := .error (.refused p)
  c.storage.validate
  c.queue.validate
  if c.transport.connectTimeout.leInt 0 || c.transport.requestTimeout.leInt 0 then
    refuse .timeouts
  if c.transport.poolSize < 1 then refuse .poolSize
  if c.transport.chunkSize < 1 then refuse .chunkSize
  if c.retry.maxRetries < 0 then refuse .retries
  if c.retry.baseDelay < 0 || c.retry.maxDelay < c.retry.baseDelay then refuse .delays

/-! ## Environment -/

/-- The words that switch a setting on. -/
def isYes (s : String) : Bool :=
  ["1", "true", "t", "yes", "y", "on"].contains (String.ofList (Text.lower (Text.trim s.toList)))

/-- A number of the environment, or a default. -/
def numberOr (env : Environment) (name : String) (default : Binary64) :
    Except ConfigError Binary64 :=
  match env.get? name with
  | none => .ok default
  | some s => (readNumber s).mapError fun e => .refused (.unreadable e.message)

/-- An integer of the environment, or a default. -/
def integerOr (env : Environment) (name : String) (default : Int) : Except ConfigError Int :=
  match env.get? name with
  | none => .ok default
  | some s => (readInt s).mapError fun e => .refused (.unreadable e.message)

/-- The locator of an endpoint in the environment loses its trailing slashes. -/
def urlOr (env : Environment) (name default : String) : String :=
  String.ofList (Text.dropEndWhile (· == '/') ((env.get? name).getD default).toList)

/-- The configuration that the environment gives, before it is checked. -/
def read (env : Environment) : Except ConfigError Config := do
  let defaults : Config := {}
  let region := (env.get? "AWSREST_REGION").getD defaultRegion
  let signature : SignatureVersion :=
    .ofName ((env.get? "AWSREST_SIGNATURE_VERSION").getD "v4")
  let connectTimeout ←
    numberOr env "AWSREST_CONNECT_TIMEOUT_S" defaults.transport.connectTimeout
  let requestTimeout ←
    numberOr env "AWSREST_REQUEST_TIMEOUT_S" defaults.transport.requestTimeout
  let poolSize ← integerOr env "AWSREST_POOL_SIZE" defaults.transport.poolSize
  let maxRetries ← integerOr env "AWSREST_MAX_RETRIES" defaults.retry.maxRetries
  return {
    storage :=
      { url := urlOr env "AWSREST_S3_ENDPOINT" (storageUrl region)
        region, service := "s3", signature }
    queue :=
      { url := urlOr env "AWSREST_SQS_ENDPOINT" (queueUrl region)
        region, service := "sqs", signature }
    transport :=
      { connectTimeout, requestTimeout, poolSize
        verifiesCertificates :=
          match env.get? "AWSREST_VERIFY_SSL" with
          | none => true
          | some s => isYes s }
    retry := { maxRetries } }

/-- The configuration that the environment gives, checked. -/
def fromEnvironment (env : Environment) : Except ConfigError Config := do
  let c ← read env
  c.validate
  return c

/-! ## Listing -/

/-- The spelling of a truth value in a listing. -/
def truthText (b : Bool) : String := if b then "True" else "False"

/-- The fields of an endpoint in order. -/
def listedEndpoint (e : Endpoint) : String :=
  s!"ServiceEndpoint(url={Text.quoted e.url}, region={Text.quoted e.region}, " ++
    s!"service={Text.quoted e.service}, signature_version={Text.quoted e.signature.name})"

/-- The fields of a configuration in order. -/
def listing (c : Config) : String :=
  s!"ClientConfig(s3={listedEndpoint c.storage}, sqs={listedEndpoint c.queue}, " ++
    s!"transport=TransportConfig(connect_timeout_s={c.transport.connectTimeout.shortestText}, " ++
    s!"request_timeout_s={c.transport.requestTimeout.shortestText}, " ++
    s!"pool_size={c.transport.poolSize}, chunk_size={c.transport.chunkSize}, " ++
    s!"verify_ssl={truthText c.transport.verifiesCertificates}), " ++
    s!"retry=RetryConfig(max_retries={c.retry.maxRetries}, " ++
    s!"base_delay_ms={c.retry.baseDelay}, max_delay_ms={c.retry.maxDelay}, " ++
    s!"jitter={truthText c.retry.jitter}))"

end Config

end CloudClient
