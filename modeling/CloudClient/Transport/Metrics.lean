import CloudClient.Number.Binary64

/-!
# Transport metrics

Counters of everything that crosses the wire. A request is counted once, an attempt each time the
request is handed to the session.
-/

namespace CloudClient

/-- The counters of a transport. The latency is a sum over all attempts, in nanoseconds. -/
structure TransportMetrics where
  requests : Nat := 0
  attempts : Nat := 0
  retries : Nat := 0
  bytesSent : Nat := 0
  bytesReceived : Nat := 0
  latency : Int := 0
  connectionErrors : Nat := 0
  timeoutErrors : Nat := 0
  errorResponses : Nat := 0
  deriving DecidableEq, Repr, Inhabited

namespace TransportMetrics

/-- The mean latency of an attempt in milliseconds; zero when there was none. -/
def meanLatency (m : TransportMetrics) : Binary64 :=
  if m.attempts = 0 then .zero false
  else (Binary64.quotient m.latency m.attempts).divNat 1000000

/-- A request is to be sent. -/
def countRequest (m : TransportMetrics) : TransportMetrics := { m with requests := m.requests + 1 }

/-- A request is to be sent again. -/
def countRetry (m : TransportMetrics) : TransportMetrics := { m with retries := m.retries + 1 }

/-- Bytes of a body were handed over. -/
def countSent (m : TransportMetrics) (n : Nat) : TransportMetrics :=
  { m with bytesSent := m.bytesSent + n }

/-- Bytes of a body were read. -/
def countReceived (m : TransportMetrics) (n : Nat) : TransportMetrics :=
  { m with bytesReceived := m.bytesReceived + n }

/-- An attempt has ended after so many nanoseconds. -/
def countAttempt (m : TransportMetrics) (latency : Int) : TransportMetrics :=
  { m with attempts := m.attempts + 1, latency := m.latency + latency }

/-- An answer with a status was read. -/
def countStatus (m : TransportMetrics) (status : Int) : TransportMetrics :=
  if 400 ≤ status then { m with errorResponses := m.errorResponses + 1 } else m

end TransportMetrics

end CloudClient
