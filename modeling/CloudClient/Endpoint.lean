import CloudClient.Uri

/-!
# Endpoints

An endpoint says where a service answers and how requests to it are signed.
-/

namespace CloudClient

/-- The signature schemes, and what else a configuration may name. -/
inductive SignatureVersion where
  | v2
  | v4
  | unknown (name : String)
  deriving DecidableEq, Repr

namespace SignatureVersion

/-- The scheme of a given name. -/
def ofName (s : String) : SignatureVersion :=
  if s = "v2" then v2 else if s = "v4" then v4 else unknown s

/-- The name of a scheme. -/
def name : SignatureVersion → String
  | v2 => "v2"
  | v4 => "v4"
  | unknown s => s

/-- The scheme of a name has that name. -/
theorem name_ofName (s : String) : (ofName s).name = s := by
  unfold ofName; split
  · simp_all [name]
  · split <;> simp_all [name]

end SignatureVersion

/-- The region that is used when none is named. -/
def defaultRegion : String := "us-east-1"

/-- Where a service answers, and the region, the service name and the scheme of its signatures. -/
structure Endpoint where
  url : String
  region : String := defaultRegion
  service : String := "s3"
  signature : SignatureVersion := .v4
  deriving DecidableEq, Repr

/-- Why a configuration is refused. -/
inductive ConfigProblem where
  | scheme (service url : String)
  | noHost (service url : String)
  | invalidPort (service url : String)
  | hasPath (service url : String)
  | unknownSignature (name : String)
  | timeouts
  | poolSize
  | chunkSize
  | retries
  | delays
  /-- A variable of the environment cannot be read as a number. -/
  | unreadable (reason : String)
  deriving DecidableEq, Repr

namespace ConfigProblem

/-- The text of a problem. -/
def message : ConfigProblem → String
  | scheme service url => s!"{service} endpoint must be http(s), got {Text.quoted url}"
  | noHost service url => s!"{service} endpoint has no host: {Text.quoted url}"
  | invalidPort service url => s!"{service} endpoint has an invalid port: {Text.quoted url}"
  | hasPath service url => s!"{service} endpoint must not carry a path: {Text.quoted url}"
  | unknownSignature name => s!"Unknown signature version {Text.quoted name}"
  | timeouts => "Timeouts must be > 0"
  | poolSize => "pool_size must be >= 1"
  | chunkSize => "chunk_size must be >= 1"
  | retries => "max_retries must be >= 0"
  | delays => "Retry delays must satisfy 0 <= base_delay_ms <= max_delay_ms"
  | unreadable reason => s!"Configuration error: {reason}"

end ConfigProblem

/-- A configuration is refused for a problem, or cannot be judged because a locator in it cannot
be taken apart. -/
inductive ConfigError where
  | refused (problem : ConfigProblem)
  | uri (error : UriError)
  deriving DecidableEq, Repr

namespace Endpoint

/-- The port that a scheme uses when none is written. -/
def defaultPort? (scheme : String) : Option Nat :=
  if scheme = "http" then some 80 else if scheme = "https" then some 443 else none

/-- The host as it is sent and signed: an address in brackets, and a port only when it is not the
one of the scheme. -/
def host (e : Endpoint) : Except UriError String := do
  let u ← Uri.read e.url
  let bare := u.host
  let name := if bare.toList.contains ':' then s!"[{bare}]" else bare
  match ← u.port with
  | none => return name
  | some n => return if defaultPort? u.scheme = some n then name else s!"{name}:{n}"

/-- The scheme of the locator. -/
def scheme (e : Endpoint) : Except UriError String := do
  return (← Uri.read e.url).scheme

/-- An endpoint is an http(s) locator with a host, a proper port if any, no path, and a known
signature scheme. -/
def validate (e : Endpoint) : Except ConfigError Unit := do
  let refuse (p : ConfigProblem) : Except ConfigError Unit := .error (.refused p)
  let u ← (Uri.read e.url).mapError .uri
  if u.scheme != "http" && u.scheme != "https" then refuse (.scheme e.service e.url)
  if u.host.isEmpty then refuse (.noHost e.service e.url)
  if u.port matches .error _ then refuse (.invalidPort e.service e.url)
  if u.path != "" && u.path != "/" then refuse (.hasPath e.service e.url)
  if let .unknown name := e.signature then refuse (.unknownSignature name)

end Endpoint

end CloudClient
