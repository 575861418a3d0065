import CloudClient.Proofs.Transport.Exchange
import CloudClient.Transport.ObjectBody
import Mathlib.Algebra.GroupWithZero.Nat

/-!
# The accounts of a transport

What the metrics of a transport say can be found again from its books: every exchange that is noted
there has had an outcome, which the configuration, the session and the request decide. The books
balance when the metrics are what the exchanges and their outcomes add up to. Main statements: one
more exchange keeps the balance, and so does reading a live body.
-/

namespace CloudClient

/-! ## Outcomes in a row -/

namespace SendOutcome

/-- What has come of exchanges, the first of which finds so many deliveries used: a body that breaks
off uses none. -/
def inTurn (outcomeAt : Nat → Exchange → SendOutcome) : Nat → List Exchange → List SendOutcome
  | _, [] => []
  | n, x :: xs =>
    outcomeAt n x :: inTurn outcomeAt (n + if (outcomeAt n x).isShort then 0 else 1) xs

variable {outcomeAt : Nat → Exchange → SendOutcome}

/-- Every exchange has an outcome. -/
theorem length_inTurn (n : Nat) (xs : List Exchange) :
    (inTurn outcomeAt n xs).length = xs.length := by
  induction xs generalizing n with
  | nil => rfl
  | cons x xs ih => rw [inTurn, List.length_cons, List.length_cons, ih]

/-- One more exchange finds the deliveries used that those before it have used. -/
theorem inTurn_concat (n : Nat) (xs : List Exchange) (x : Exchange) :
    inTurn outcomeAt n (xs ++ [x]) = inTurn outcomeAt n xs ++
      [outcomeAt (n + (inTurn outcomeAt n xs).countP (!·.isShort)) x] := by
  induction xs generalizing n with
  | nil => rfl
  | cons y ys ih =>
    rw [List.cons_append, inTurn, ih, inTurn, List.cons_append, List.countP_cons, Nat.add_assoc,
      Nat.add_comm (List.countP _ _)]
    cases (outcomeAt n y).isShort <;> rfl

/-- What has come of an exchange stays when nothing of it changes that matters. -/
theorem inTurn_modify {f : Exchange → Exchange} (hf : ∀ n x, outcomeAt n (f x) = outcomeAt n x)
    (k n : Nat) (xs : List Exchange) :
    inTurn outcomeAt n (xs.modify k f) = inTurn outcomeAt n xs := by
  induction xs generalizing k n with
  | nil => rw [List.modify_nil]
  | cons x xs ih =>
    cases k with
    | zero => rw [List.modify_zero_cons, inTurn, inTurn, hf]
    | succ k => rw [List.modify_succ_cons, inTurn, inTurn, ih]

/-- An outcome is counted as an error once at most. -/
theorem count_errors_le (os : List SendOutcome) :
    os.countP (·.isErrorResponse) + os.countP (·.isLostConnection) + os.countP (·.isTimeout) ≤
      os.length := by
  induction os with
  | nil => exact Nat.le_refl 0
  | cons o os ih =>
    have hone : (if o.isErrorResponse then 1 else 0) + (if o.isLostConnection then 1 else 0) +
        (if o.isTimeout then 1 else 0) ≤ 1 := by
      cases o with
      | short f => simp [isErrorResponse, isLostConnection, isTimeout]
      | failed f => cases hkind : f.kind <;>
          simp [isErrorResponse, isLostConnection, isTimeout, hkind]
      | answered r => by_cases hstatus : 400 ≤ r.status <;>
          simp [isErrorResponse, isLostConnection, isTimeout, hstatus]
    simp only [List.countP_cons, List.length_cons]
    omega

end SendOutcome

/-- What is counted by the outcome of an attempt, counter by counter. -/
theorem TransportMetrics.countOutcome_eq (m : TransportMetrics) (o : SendOutcome) :
    m.countOutcome o =
      { m with
        bytesReceived := m.bytesReceived + o.bodySize
        connectionErrors := m.connectionErrors + if o.isLostConnection then 1 else 0
        timeoutErrors := m.timeoutErrors + if o.isTimeout then 1 else 0
        errorResponses := m.errorResponses + if o.isErrorResponse then 1 else 0 } := by
  cases o with
  | short f => rfl
  | failed f =>
    cases hkind : f.kind <;>
      simp [countOutcome, SendOutcome.bodySize, SendOutcome.isLostConnection, SendOutcome.isTimeout,
        SendOutcome.isErrorResponse, hkind]
  | answered r =>
    by_cases hstatus : 400 ≤ r.status <;>
      simp [countOutcome, countReceived, countStatus, SendOutcome.bodySize,
        SendOutcome.isLostConnection, SendOutcome.isTimeout, SendOutcome.isErrorResponse, hstatus]

/-! ## Sizes -/

/-- The number of bytes that a request was handed over with: all of a body in memory, or the chunks
that were drawn of a stream. -/
def Exchange.sentSize (x : Exchange) : Nat :=
  match x.request.body, x.cargo with
  | .bytes data, _ => data.length
  | .stream _, .chunks parts => parts.flatten.length
  | _, _ => 0

/-- What the session got of the body has that size. -/
theorem Exchange.size_cargo {x : Exchange} {chunkSize : Nat} {pulls : Option Nat}
    (h : x.cargo = (x.request.body.handOver chunkSize pulls).cargo) :
    x.cargo.size = x.sentSize := by
  rw [sentSize, h]
  cases x.request.body <;> rfl

/-! ## Balances -/

namespace Ledger

/-- What comes of an exchange that finds so many deliveries used. -/
def outcomeAt (books : Ledger) (n : Nat) (x : Exchange) : SendOutcome :=
  .ofDelivery books.config.chunkSize.toNat x.isLive x.request.body (books.supply.delivery n)

/-- What has come of the exchanges of a transport that began with no delivery used. -/
def outcomes (books : Ledger) : List SendOutcome :=
  SendOutcome.inTurn books.outcomeAt 0 books.exchanges

/-- The metrics are what the exchanges, their outcomes, and the bytes that were read of live bodies
add up to. -/
structure Balances (books : Ledger) (m : TransportMetrics) (read : Nat) : Prop where
  attempts : m.attempts = books.exchanges.length
  errorResponses : m.errorResponses = books.outcomes.countP (·.isErrorResponse)
  connectionErrors : m.connectionErrors = books.outcomes.countP (·.isLostConnection)
  timeoutErrors : m.timeoutErrors = books.outcomes.countP (·.isTimeout)
  bytesSent : m.bytesSent = (books.exchanges.map (·.sentSize)).sum
  bytesReceived : m.bytesReceived = (books.outcomes.map (·.bodySize)).sum + read
  delivered : books.delivered = books.outcomes.countP (!·.isShort)

namespace Balances

variable {books : Ledger} {m : TransportMetrics} {read : Nat}

/-- The books of a new transport balance. -/
theorem empty (config : TransportConfig) (supply : Supply) :
    Balances (Transport.ledger { config, supply }) {} 0 where
  attempts := rfl
  errorResponses := rfl
  connectionErrors := rfl
  timeoutErrors := rfl
  bytesSent := rfl
  bytesReceived := rfl
  delivered := rfl

/-- No attempt is counted as two errors. -/
theorem errors_le (h : Balances books m read) :
    m.errorResponses + m.connectionErrors + m.timeoutErrors ≤ m.attempts := by
  have hlength : books.outcomes.length = books.exchanges.length :=
    SendOutcome.length_inTurn 0 books.exchanges
  rw [h.errorResponses, h.connectionErrors, h.timeoutErrors, h.attempts, ← hlength]
  exact SendOutcome.count_errors_le _

/-- Requests and requests that are sent again are counted apart from the books. -/
theorem of_requests (h : Balances books m read) (requests retries : Nat) :
    Balances books { m with requests, retries } read where
  attempts := h.attempts
  errorResponses := h.errorResponses
  connectionErrors := h.connectionErrors
  timeoutErrors := h.timeoutErrors
  bytesSent := h.bytesSent
  bytesReceived := h.bytesReceived
  delivered := h.delivered

/-- Readings of the clock are no matter of the balance. -/
theorem of_readings (h : Balances books m read) (readings : Nat) :
    Balances { books with readings } m read where
  attempts := h.attempts
  errorResponses := h.errorResponses
  connectionErrors := h.connectionErrors
  timeoutErrors := h.timeoutErrors
  bytesSent := h.bytesSent
  bytesReceived := h.bytesReceived
  delivered := h.delivered

/-- **One more exchange keeps the balance.** -/
theorem exchange (h : Balances books m read) {x : Exchange} (hsize : x.cargo.size = x.sentSize)
    (latency : Int) :
    Balances
      { books with
        delivered := books.delivered + if (books.outcomeAt books.delivered x).isShort then 0 else 1
        exchanges := books.exchanges ++ [x] }
      (((m.countSent x.cargo.size).countAttempt latency).countOutcome
        (books.outcomeAt books.delivered x)) read := by
  -- The new exchange finds used what the old ones have used, which is what the books say.
  have houtcomes :
      ∀ d, outcomes { books with delivered := d, exchanges := books.exchanges ++ [x] } =
      books.outcomes ++ [books.outcomeAt books.delivered x] := by
    intro d
    show SendOutcome.inTurn books.outcomeAt 0 (books.exchanges ++ [x]) = _
    rw [SendOutcome.inTurn_concat, Nat.zero_add, h.delivered]
    rfl
  rw [TransportMetrics.countOutcome_eq]
  constructor
  case attempts =>
    show m.attempts + 1 = (books.exchanges ++ [x]).length
    rw [h.attempts, List.length_append, List.length_singleton]
  case bytesSent =>
    show m.bytesSent + x.cargo.size = ((books.exchanges ++ [x]).map (·.sentSize)).sum
    rw [h.bytesSent, hsize, List.map_append, List.sum_append, List.map_singleton,
      List.sum_singleton]
  case bytesReceived =>
    rw [houtcomes, List.map_append, List.sum_append, List.map_singleton, List.sum_singleton,
      Nat.add_right_comm, ← h.bytesReceived]
    rfl
  case delivered =>
    rw [houtcomes, List.countP_append, ← h.delivered, List.countP_singleton]
    cases (books.outcomeAt books.delivered x).isShort <;> rfl
  all_goals rw [houtcomes, List.countP_append, List.countP_singleton]
  case errorResponses =>
    rw [← h.errorResponses]
    rfl
  case connectionErrors =>
    rw [← h.connectionErrors]
    rfl
  case timeoutErrors =>
    rw [← h.timeoutErrors]
    rfl

/-- What is noted of a response changes no balance. -/
theorem modify (h : Balances books m read) (k : Nat) {f : Exchange → Exchange}
    (hf : ∀ x, (f x).request = x.request ∧ (f x).cargo = x.cargo ∧ (f x).isLive = x.isLive) :
    Balances { books with exchanges := books.exchanges.modify k f } m read := by
  have houtcomes : outcomes { books with exchanges := books.exchanges.modify k f } =
      books.outcomes := by
    have hsame : ∀ n x, books.outcomeAt n (f x) = books.outcomeAt n x := fun n x => by
      rw [outcomeAt, outcomeAt, (hf x).1, (hf x).2.2]
    exact SendOutcome.inTurn_modify hsame k 0 books.exchanges
  have hsizes : (books.exchanges.modify k f).map (·.sentSize) =
      books.exchanges.map (·.sentSize) := by
    refine map_modify_of_kept (fun x => ?_) k books.exchanges
    rw [Exchange.sentSize, Exchange.sentSize, (hf x).1, (hf x).2.1]
  constructor
  case attempts => rw [h.attempts, List.length_modify]
  case bytesSent => rw [h.bytesSent, hsizes]
  case bytesReceived => rw [houtcomes, h.bytesReceived]
  case delivered => rw [houtcomes, ← h.delivered]
  case errorResponses => rw [houtcomes, h.errorResponses]
  case connectionErrors => rw [houtcomes, h.connectionErrors]
  case timeoutErrors => rw [houtcomes, h.timeoutErrors]

/-- Bytes that are read of a live body are counted. -/
theorem countReceived (h : Balances books m read) (n : Nat) :
    Balances books (m.countReceived n) (read + n) where
  attempts := h.attempts
  errorResponses := h.errorResponses
  connectionErrors := h.connectionErrors
  timeoutErrors := h.timeoutErrors
  bytesSent := h.bytesSent
  bytesReceived := by
    rw [← Nat.add_assoc, ← h.bytesReceived]
    rfl
  delivered := h.delivered

end Balances

end Ledger

/-! ## Live bodies -/

/-- A transport that is open and whose books balance, with as many attempts as there were requests
and requests sent again. -/
structure Transport.IsBalanced (t : Transport) (read : Nat) : Prop where
  isOpen : t.isClosed = false
  balances : t.ledger.Balances t.metrics read
  attempts : t.metrics.attempts = t.metrics.requests + t.metrics.retries

namespace ObjectBody

variable {t : Transport} {read : Nat}

/-- Giving a response back keeps the balance. -/
theorem isBalanced_close (b : ObjectBody) (h : t.IsBalanced read) :
    (b.close t).IsBalanced read where
  isOpen := h.isOpen
  balances := h.balances.modify b.exchange fun _ => ⟨rfl, rfl, rfl⟩
  attempts := h.attempts

/-- Taking bytes counts them. -/
theorem isBalanced_consume (b : ObjectBody) (n : Nat) (h : t.IsBalanced read) :
    (b.consume n t).IsBalanced (read + n) where
  isOpen := h.isOpen
  balances := (h.balances.modify b.exchange (f := fun e => { e with unread := e.unread.drop n })
    fun _ => ⟨rfl, rfl, rfl⟩).countReceived n
  attempts := h.attempts

/-- The number of bytes that a reading gives. -/
def bytesOf : Except Failure Bytes → Nat
  | .ok data => data.length
  | .error _ => 0

/-- Reading what is left of a body counts what it gives. -/
theorem isBalanced_read (b : ObjectBody) (h : t.IsBalanced read) :
    (b.read t).2.IsBalanced (read + bytesOf (b.read t).1) := by
  rw [ObjectBody.read]
  split
  · exact b.isBalanced_close h
  · exact b.isBalanced_close (b.isBalanced_consume _ h)

/-- Reading chunks counts what they hold, also when the reading fails after them. -/
theorem isBalanced_readChunks (b : ObjectBody) (size wanted : Option Nat) (h : t.IsBalanced read) :
    (b.readChunks size wanted t).2.IsBalanced
      (read + (b.readChunks size wanted t).1.1.flatten.length) :=
  b.isBalanced_close (b.isBalanced_consume _ h)

end ObjectBody

end CloudClient
