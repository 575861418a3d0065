import CloudClient.Config
import CloudClient.Transport.Flight
import CloudClient.Transport.Metrics

/-!
# The transport

A transport is shared by all connections of a factory. It opens its session with the first
request and hands every request to it until it is closed. What it learns from outside comes from a
supply: readings of the clock, random shares, and what the session does with each request. What an
observer sees of it is kept in a journal.
-/

namespace CloudClient

/-- What comes from outside, each in the order in which it is asked for. -/
structure Supply where
  clock : Nat → Except DateError DateTime
  share : Nat → Binary64
  delivery : Nat → Delivery
  /-- The nanoseconds that an attempt takes. -/
  latency : Int := 0

/-- What an observer sees, in order. -/
structure Journal where
  exchanges : List Exchange := []
  pauses : List Binary64 := []
  warnings : List LogWarning := []
  sessions : List SessionEvent := []

/-- The transport. -/
structure Transport where
  config : TransportConfig := {}
  supply : Supply
  isClosed : Bool := false
  hasSession : Bool := false
  metrics : TransportMetrics := {}
  /-- How many readings of the clock, shares and deliveries have been used. -/
  readings : Nat := 0
  drawn : Nat := 0
  delivered : Nat := 0
  journal : Journal := {}

namespace Transport

/-- Reads the clock. -/
def readClock (t : Transport) : Except DateError DateTime × Transport :=
  (t.supply.clock t.readings, { t with readings := t.readings + 1 })

/-- Draws a random share. -/
def drawShare (t : Transport) : Binary64 × Transport :=
  (t.supply.share t.drawn, { t with drawn := t.drawn + 1 })

/-- Counts something. -/
def count (t : Transport) (f : TransportMetrics → TransportMetrics) : Transport :=
  { t with metrics := f t.metrics }

/-- Writes a warning to the log. -/
def warn (t : Transport) (w : LogWarning) : Transport :=
  { t with journal := { t.journal with warnings := t.journal.warnings ++ [w] } }

/-- Waits. -/
def pause (t : Transport) (seconds : Binary64) : Transport :=
  { t with journal := { t.journal with pauses := t.journal.pauses ++ [seconds] } }

/-- Notes an event of the session. -/
def note (t : Transport) (e : SessionEvent) : Transport :=
  { t with journal := { t.journal with sessions := t.journal.sessions ++ [e] } }

/-- Adds an exchange. -/
def addExchange (t : Transport) (e : Exchange) : Transport :=
  { t with journal := { t.journal with exchanges := t.journal.exchanges ++ [e] } }

/-- Changes an exchange. -/
def modifyExchange (t : Transport) (n : Nat) (f : Exchange → Exchange) : Transport :=
  { t with journal := { t.journal with exchanges := t.journal.exchanges.modify n f } }

/-- Opens a session when there is none. -/
def openSession (t : Transport) : Transport :=
  if t.hasSession then t else { t.note .opened with hasSession := true }

/-- Closes the transport for good, and its session. -/
def close (t : Transport) : Transport :=
  let t := if t.hasSession then t.note .closed else t
  { t with isClosed := true, hasSession := false }

/-! ## Requests -/

/-- Hands a request to the session. A request whose body breaks off does not use a delivery. -/
def handOver (t : Transport) (request : SignedRequest) (live : Bool) :
    Except Fault (Handed × Body) × Transport :=
  if t.isClosed then (.error (.transportClosed request.operation), t)
  else
    let t := t.openSession
    let delivery := t.supply.delivery t.delivered
    let h := request.body.handOver t.config.chunkSize.toNat delivery.pulls
    let outcome :=
      match h.shortage with
      | some f => .error f
      | none => .ok delivery.reply
    let exchange := t.journal.exchanges.length
    let used := if h.shortage.isSome then 0 else 1
    let t := (t.count (·.countSent h.cargo.size)).addExchange
      { request, cargo := h.cargo, isLive := live }
    (.ok ({ exchange, request, isLive := live, outcome }, h.body),
      { t with delivered := t.delivered + used })

/-- Counts a failure of the session by its class. -/
def countFailure (t : Transport) (f : SessionFailure) : Transport :=
  match f.kind with
  | .timeout => t.count fun m => { m with timeoutErrors := m.timeoutErrors + 1 }
  | .connection => t.count fun m => { m with connectionErrors := m.connectionErrors + 1 }
  | .protocol | .other => t

/-- Takes a failure of the session. -/
def fail (t : Transport) (request : SignedRequest) (f : SessionFailure) : Failure × Transport :=
  (f.requestFailure request.operation request.url t.config.requestTimeout, t.countFailure f)

/-- Gives a response back to the session. -/
def release (t : Transport) (n : Nat) : Transport :=
  t.modifyExchange n fun e => { e with isReleased := true }

/-- Takes a response of the session. A body that is wanted live stays unread when the status
allows it; any other body is read at once. -/
def takeResponse (t : Transport) (h : Handed) (r : SessionResponse) :
    Except Failure Answer × Transport :=
  let head : Response := { status := r.status, reason := r.reason, headers := r.headers }
  if h.isLive && r.status < 300 then
    let t := t.modifyExchange h.exchange fun e =>
      { e with hasResponse := true, unread := r.body, readFailure := r.readFailure }
    (.ok { response := { head with isLive := true }
           live := some
            { exchange := h.exchange, operation := h.request.operation, length := r.length } }, t)
  else
    let t := t.modifyExchange h.exchange fun e =>
      { e with hasResponse := true, isReleased := true }
    match r.readFailure with
    | some f =>
      let (e, t) := t.fail h.request f
      (.error e, t)
    | none =>
      (.ok { response := { head with body := r.body } },
        t.count fun m => (m.countReceived r.body.length).countStatus r.status)

/-- Takes the answer to a request; the attempt has then ended. -/
def settle (t : Transport) (h : Handed) : Except Failure Answer × Transport :=
  let t := t.count (·.countAttempt t.supply.latency)
  match h.outcome with
  | .error f => (.error (.fault f), t)
  | .ok (.failure f) =>
    let (e, t) := t.fail h.request f
    (.error e, t)
  | .ok (.response r) => t.takeResponse h r

end Transport

namespace Flight

/-- Runs a call by itself on a transport. -/
def run {α : Type} : Flight α → Transport → α × Transport
  | done a, t => (a, t)
  | clock next, t => let (time, t) := t.readClock; (next time).run t
  | countRequest next, t => next.run (t.count (·.countRequest))
  | countRetry next, t => next.run (t.count (·.countRetry))
  | handOver request live next, t => let (h, t) := t.handOver request live; (next h).run t
  | settle handed next, t => let (a, t) := t.settle handed; (next a).run t
  | share next, t => let (x, t) := t.drawShare; (next x).run t
  | warn warning next, t => next.run (t.warn warning)
  | pause seconds next, t => next.run (t.pause seconds)

/-- A call that goes on with another runs the first and then the other. -/
theorem run_bind {α β : Type} (m : Flight α) (f : α → Flight β) (t : Transport) :
    (m.bind f).run t = (f (m.run t).1).run (m.run t).2 := by
  induction m generalizing t with
  | done a => rfl
  | clock next ih => exact ih _ _
  | countRequest next ih => exact ih _
  | countRetry next ih => exact ih _
  | handOver request live next ih => exact ih _ _
  | settle handed next ih => exact ih _ _
  | share next ih => exact ih _ _
  | warn warning next ih => exact ih _
  | pause seconds next ih => exact ih _

end Flight

end CloudClient
