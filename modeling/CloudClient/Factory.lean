import CloudClient.Connection.Queue
import CloudClient.Transport.State

/-!
# Connection factories

A factory checks its configuration once and makes connections that share one transport. After it
has been shut down it makes no more of them, and its transport sends nothing.
-/

namespace CloudClient

/-- What a caller gets of a check: the text of the problem for which a configuration is refused, and
a failure when a locator in it cannot be taken apart. -/
def reported {α : Type} : Except ConfigError α → Except Failure (Except String α)
  | .ok a => .ok (.ok a)
  | .error (.refused p) => .ok (.error p.message)
  | .error (.uri e) => .error (.uri e)

/-- A factory of connections. -/
structure ConnectionFactory where
  config : Config
  isClosed : Bool := false

namespace ConnectionFactory

/-- The factory of a valid configuration. -/
def make (c : Config) : Except Failure ConnectionFactory :=
  match c.validate with
  | .ok () => .ok { config := c }
  | .error (.refused p) =>
    .error (.fault (.invalidArgument "config" (.text c.listing) p.message))
  | .error (.uri e) => .error (.uri e)

/-- The factory of a configuration, or the text of the fault for which it is not made. -/
def create (c : Config) : Except Failure (Except String ConnectionFactory) :=
  match make c with
  | .ok f => .ok (.ok f)
  | .error (.fault f) => .ok (.error f.message)
  | .error e => .error e

/-- The factory that the environment configures. -/
def fromEnvironment (env : Environment) : Except Failure (Except String ConnectionFactory) := do
  match ← reported (Config.fromEnvironment env) with
  | .ok c => create c
  | .error message => return .error message

/-- The transport that all connections of a factory share. -/
def transport (f : ConnectionFactory) (supply : Supply) : Transport :=
  { config := f.config.transport, supply }

/-- Credentials may be used with a service as long as the factory is open and they are complete. -/
def checkCredentials (f : ConnectionFactory) (service : String) (c : Credentials) :
    Except Fault Unit :=
  if f.isClosed then .error (.factoryClosed service)
  else
    match c.validate with
    | .ok () => .ok ()
    | .error e => .error (.invalidArgument "credentials" (.text c.keyId) e.message)

/-- A connection to the storage service. -/
def storageConnection (f : ConnectionFactory) (c : Credentials) :
    Except Fault StorageConnection := do
  f.checkCredentials "s3" c
  return { credentials := c, endpoint := f.config.storage, policy := .ofConfig f.config.retry }

/-- A connection to the queue service. -/
def queueConnection (f : ConnectionFactory) (c : Credentials) : Except Fault QueueConnection := do
  f.checkCredentials "sqs" c
  return { credentials := c, endpoint := f.config.queue, policy := .ofConfig f.config.retry }

/-- Shuts a factory down, and closes the transport with it the first time. -/
def shutdown (f : ConnectionFactory) (t : Transport) : ConnectionFactory × Transport :=
  if f.isClosed then (f, t) else ({ f with isClosed := true }, t.close)

/-- A factory that is shut down stays as it is. -/
theorem shutdown_shutdown (f : ConnectionFactory) (t : Transport) :
    (f.shutdown t).1.shutdown (f.shutdown t).2 = f.shutdown t := by
  cases h : f.isClosed <;> simp [shutdown, h]

end ConnectionFactory

end CloudClient
