import CloudClient.Transport.State

/-!
# What comes of a request

A request that is handed to an open transport has one of three outcomes: its body breaks off, the
session fails, or a response comes in. This module says which, what the exchange leaves behind in
the transport, and what is counted of it.
-/

namespace CloudClient

/-- What comes of a request that is handed to the session. -/
inductive SendOutcome where
  /-- The body ended before its stated length. -/
  | short (f : Fault)
  /-- The session failed, on the way there or while the answer was read. -/
  | failed (f : SessionFailure)
  | answered (r : Response)

namespace SendOutcome

/-- What a reply of the session amounts to. A body that is wanted live is not read when the status
allows it. -/
def ofReply (live : Bool) : Reply → SendOutcome
  | .failure f => failed f
  | .response r =>
    let head : Response := { status := r.status, reason := r.reason, headers := r.headers }
    if live && r.status < 300 then answered { head with isLive := true }
    else
      match r.readFailure with
      | some f => failed f
      | none => answered { head with body := r.body }

/-- What comes of a request whose body is found short or not, when the session replies. -/
def ofShortage (shortage : Option Fault) (live : Bool) (reply : Reply) : SendOutcome :=
  match shortage with
  | some f => short f
  | none => ofReply live reply

/-- What comes of a request with a body, of which the session takes so much and then replies. -/
def ofDelivery (chunkSize : Nat) (live : Bool) (body : Body) (d : Delivery) : SendOutcome :=
  match (body.handOver chunkSize d.pulls).shortage with
  | some f => short f
  | none => ofReply live d.reply

/-- The body broke off, so that the session had no say. -/
def isShort : SendOutcome → Bool
  | short _ => true
  | _ => false

/-- A response was received that reports an error by its status. -/
def isErrorResponse : SendOutcome → Bool
  | answered r => 400 ≤ r.status
  | _ => false

/-- The time was over. -/
def isTimeout : SendOutcome → Bool
  | failed f => f.kind = .timeout
  | _ => false

/-- There was no connection. -/
def isLostConnection : SendOutcome → Bool
  | failed f => f.kind = .connection
  | _ => false

/-- The number of bytes in the body of the response, as far as it was read at once. -/
def bodySize : SendOutcome → Nat
  | answered r => r.body.length
  | _ => 0

/-- The request may succeed when it is sent again: the session failed on the network, the service
was out of order, or its document names a code that says so. -/
def IsTransient : SendOutcome → Prop
  | short _ => False
  | failed f => f.kind = .timeout ∨ f.kind = .connection ∨ f.kind = .protocol
  | answered r =>
    r.status ∈ [500, 502, 503, 504] ∨
      400 ≤ r.status ∧ ∃ code ∈ Response.retryableCodes, r.errorCode = some code

/-- The end of the attempt. -/
def result (q : SignedRequest) (limit : Binary64) : SendOutcome → Except Failure Response
  | short f => .error (.fault f)
  | failed f => .error (f.requestFailure q.operation q.url limit)
  | answered r => .ok r

/-- A body that breaks off is no passing failure. -/
theorem IsTransient.isShort {o : SendOutcome} (h : o.IsTransient) : o.isShort = false := by
  cases o with
  | short f => exact h.elim
  | failed f => rfl
  | answered r => rfl

/-- The code of the fault that tells of a failure; one that is no matter of the network has none. -/
def codeOf (f : SessionFailure) : Option FaultCode :=
  match f.kind with
  | .timeout => some .timeout
  | .connection => some .connectionFailed
  | .protocol => some .protocolError
  | .other => none

/-- The end of a call whose last request had this outcome: the response itself, a fault with the
code of the last failure, the fault of the body that broke off, or a failure from outside as it is.
-/
def IsToldBy : SendOutcome → Except Failure Answer → Prop
  | short f, a => a = .error (.fault f) ∧ f.family = .construction
  | failed f, a =>
    match codeOf f with
    | some code => ∃ g, a = .error (.fault g) ∧ g.family = .transport ∧ g.code = code
    | none => a = .error (.foreign f.cause)
  | answered r, a => ∃ answer, a = .ok answer ∧ answer.response = r

/-- A response deserves another attempt exactly when its status or its code says so. -/
theorem isTransient_answered (r : Response) : (answered r).IsTransient ↔ r.isRetryable = true := by
  simp only [IsTransient, Response.isRetryable, Bool.or_eq_true, Bool.and_eq_true,
    List.contains_eq_mem, decide_eq_true_eq, Response.retryableStatuses, Option.any_eq_true]
  refine or_congr_right (and_congr_right fun _ => ?_)
  constructor
  · rintro ⟨code, hmem, hcode⟩
    exact ⟨code, hcode, hmem⟩
  · rintro ⟨code, hcode, hmem⟩
    exact ⟨code, hmem, hcode⟩

/-- A failure of the session is worth another attempt exactly when it is a matter of the network:
its fault has the code of its class. -/
theorem result_failed (f : SessionFailure) (q : SignedRequest) (limit : Binary64) :
    match codeOf f with
    | some code => (failed f).IsTransient ∧ ∃ g, (failed f).result q limit = .error (.fault g) ∧
        g.family = .transport ∧ g.code = code ∧ g.isRetryable = true
    | none => ¬(failed f).IsTransient ∧ (failed f).result q limit = .error (.foreign f.cause) := by
  cases hkind : f.kind
  all_goals simp only [codeOf, IsTransient, result, SessionFailure.requestFailure, hkind]
  · exact ⟨by simp, _, rfl, rfl, rfl, rfl⟩
  · exact ⟨by simp, _, rfl, rfl, rfl, rfl⟩
  · exact ⟨by simp, _, rfl, rfl, rfl, rfl⟩
  · exact ⟨by simp, trivial⟩

/-- A reply is no broken body. -/
theorem isShort_ofReply (live : Bool) (reply : Reply) : (ofReply live reply).isShort = false := by
  unfold ofReply
  repeat' split
  all_goals rfl

/-- A request comes short exactly when its body is found short. -/
theorem isShort_ofShortage (shortage : Option Fault) (live : Bool) (reply : Reply) :
    (ofShortage shortage live reply).isShort = shortage.isSome := by
  cases shortage with
  | none => exact isShort_ofReply live reply
  | some f => rfl

/-- A request comes short exactly when its body does. -/
theorem isShort_ofDelivery (chunkSize : Nat) (live : Bool) (body : Body) (d : Delivery) :
    (ofDelivery chunkSize live body d).isShort =
    (body.handOver chunkSize d.pulls).shortage.isSome :=
  isShort_ofShortage (body.handOver chunkSize d.pulls).shortage live d.reply

/-- The fault of a body that breaks off is one of construction. -/
theorem family_of_ofDelivery {chunkSize : Nat} {live : Bool} {body : Body} {d : Delivery}
    {f : Fault} (h : ofDelivery chunkSize live body d = short f) : f.family = .construction := by
  unfold ofDelivery at h
  split at h
  · rename_i hshort
    cases h
    cases body with
    | empty => cases hshort
    | bytes data => cases hshort
    | stream p =>
      simp only [Body.handOver] at hshort
      split at hshort
      · cases hshort
      · cases hshort
        rfl
  · unfold ofReply at h
    repeat' split at h
    all_goals cases h

end SendOutcome

/-- What comes of a request that was handed over. -/
def Handed.comesTo (h : Handed) : SendOutcome :=
  match h.outcome with
  | .error f => .short f
  | .ok reply => .ofReply h.isLive reply

/-- What is counted of an attempt by what came of its request. -/
def TransportMetrics.countOutcome (m : TransportMetrics) : SendOutcome → TransportMetrics
  | .short _ => m
  | .failed f =>
    match f.kind with
    | .timeout => { m with timeoutErrors := m.timeoutErrors + 1 }
    | .connection => { m with connectionErrors := m.connectionErrors + 1 }
    | .protocol | .other => m
  | .answered r => (m.countReceived r.body.length).countStatus r.status

/-! ## Exchanges in a row -/

/-- What holds of every member of a list at its place, and of one more behind it, holds of all. -/
theorem forall_getElem?_concat {α : Type} {P : Nat → α → Prop} {l : List α} {a : α}
    (hl : ∀ i b, l[i]? = some b → P i b) (ha : P l.length a) :
    ∀ i b, (l ++ [a])[i]? = some b → P i b := by
  intro i b hb
  rcases Nat.lt_trichotomy i l.length with hlt | rfl | hgt
  · rw [List.getElem?_append_left hlt] at hb
    exact hl i b hb
  · rw [List.getElem?_concat_length] at hb
    cases hb
    exact ha
  · rw [List.getElem?_eq_none
      (by simp only [List.length_append, List.length_singleton]; omega)] at hb
    cases hb

/-- What a change leaves as it is of every member is left so in the list. -/
theorem map_modify_of_kept {α β : Type} {g : α → β} {f : α → α} (hf : ∀ a, g (f a) = g a) (n : Nat)
    (l : List α) : (l.modify n f).map g = l.map g := by
  refine List.ext_getElem? fun i => ?_
  rw [List.getElem?_map, List.getElem?_map, List.getElem?_modify]
  cases l[i]? with
  | none => rfl
  | some a => by_cases hni : n = i <;> simp [hni, hf]

/-! ## The books of a transport -/

/-- What a transport has kept account of, apart from its metrics, its log and its waits. -/
structure Ledger where
  isClosed : Bool
  config : TransportConfig
  supply : Supply
  readings : Nat
  delivered : Nat
  exchanges : List Exchange

namespace Transport

/-- The books of a transport. -/
def ledger (t : Transport) : Ledger where
  isClosed := t.isClosed
  config := t.config
  supply := t.supply
  readings := t.readings
  delivered := t.delivered
  exchanges := t.journal.exchanges

variable (t : Transport)

@[simp] theorem ledger_count (f : TransportMetrics → TransportMetrics) :
    (t.count f).ledger = t.ledger := rfl

@[simp] theorem ledger_readClock :
    t.readClock.2.ledger = { t.ledger with readings := t.readings + 1 } := rfl

@[simp] theorem ledger_openSession : t.openSession.ledger = t.ledger := by
  unfold openSession
  split <;> rfl

@[simp] theorem ledger_close : t.close.ledger = { t.ledger with isClosed := true } := by
  rw [close]
  cases t.hasSession <;> rfl

@[simp] theorem ledger_countFailure (f : SessionFailure) :
    (t.countFailure f).ledger = t.ledger := by
  unfold countFailure
  split <;> rfl

/-! ## One exchange -/

/-- The request of a transport that is handed over, and what comes of it. -/
def outcomeAt (live : Bool) (n : Nat) (x : Exchange) : SendOutcome :=
  .ofDelivery t.config.chunkSize.toNat live x.request.body (t.supply.delivery n)

/-- The answer to a request is what has come of it. -/
theorem fst_settle (h : Handed) :
    (t.settle h).1.map (·.response) = h.comesTo.result h.request t.config.requestTimeout := by
  rw [settle, Handed.comesTo]
  rcases h.outcome with f | r | f
  · rfl
  · simp only [takeResponse, SendOutcome.ofReply]
    split
    · rfl
    · cases r.readFailure <;> rfl
  · rfl

/-- A failure of the session is counted as what has come of the request. -/
theorem metrics_countFailure (f : SessionFailure) :
    (t.countFailure f).metrics = t.metrics.countOutcome (.failed f) := by
  rw [countFailure, TransportMetrics.countOutcome]
  cases f.kind <;> rfl

/-- Taking an answer counts the attempt and what has come of the request. -/
theorem metrics_settle (h : Handed) :
    (t.settle h).2.metrics =
      (t.metrics.countAttempt t.supply.latency).countOutcome h.comesTo := by
  rw [settle, Handed.comesTo]
  rcases h.outcome with f | r | f
  · rfl
  · simp only [takeResponse, SendOutcome.ofReply]
    split
    · -- A body that stays live is not read, and its status is no error.
      rename_i hlive
      have hstatus : ¬400 ≤ r.status := by
        simp only [Bool.and_eq_true, decide_eq_true_eq] at hlive
        omega
      simp only [TransportMetrics.countOutcome, TransportMetrics.countStatus, if_neg hstatus]
      rfl
    · cases r.readFailure with
      | none => rfl
      | some f => exact metrics_countFailure _ f
  · exact metrics_countFailure _ f

/-- Taking an answer changes no book but the exchange that it belongs to, and there neither what was
handed over nor how. -/
theorem ledger_settle (h : Handed) :
    ∃ f : Exchange → Exchange,
      (∀ x, (f x).request = x.request ∧ (f x).cargo = x.cargo ∧ (f x).isLive = x.isLive) ∧
      (t.settle h).2.ledger =
        { t.ledger with exchanges := t.journal.exchanges.modify h.exchange f } := by
  have hsame : t.ledger =
      { t.ledger with exchanges := t.journal.exchanges.modify h.exchange id } := by
    rw [List.modify_id]
    rfl
  rw [settle]
  rcases h.outcome with f | r | f
  · exact ⟨id, fun _ => ⟨rfl, rfl, rfl⟩, hsame⟩
  · simp only [takeResponse]
    split
    · exact ⟨fun x => { x with
          hasResponse := true, unread := r.body, readFailure := r.readFailure },
        fun _ => ⟨rfl, rfl, rfl⟩, rfl⟩
    · refine ⟨fun x => { x with hasResponse := true, isReleased := true }, fun _ => ⟨rfl, rfl, rfl⟩,
        ?_⟩
      cases r.readFailure with
      | none => rfl
      | some f => exact ledger_countFailure _ f
  · refine ⟨id, fun _ => ⟨rfl, rfl, rfl⟩, ?_⟩
    rw [← hsame]
    exact ledger_countFailure _ f

/-- Hands a request to the session of an open transport, which gets this much of its body and finds
it short or not. -/
def handOverCargo (request : SignedRequest) (live : Bool) (cargo : Cargo)
    (shortage : Option Fault) : Handed × Transport :=
  let t := t.openSession
  let outcome :=
    match shortage with
    | some f => .error f
    | none => .ok (t.supply.delivery t.delivered).reply
  let exchange := t.journal.exchanges.length
  let used := if shortage.isSome then 0 else 1
  let t := (t.count (·.countSent cargo.size)).addExchange { request, cargo, isLive := live }
  ({ exchange, request, isLive := live, outcome }, { t with delivered := t.delivered + used })

/-- An open transport hands over what the session takes of the body. -/
theorem handOver_eq_handOverCargo (hopen : t.isClosed = false) (q : SignedRequest) (live : Bool)
    {u : Handover}
    (hu : q.body.handOver t.config.chunkSize.toNat (t.supply.delivery t.delivered).pulls = u) :
    t.handOver q live = (.ok ((t.handOverCargo q live u.cargo u.shortage).1, u.body),
      (t.handOverCargo q live u.cargo u.shortage).2) := by
  subst hu
  rw [handOver, if_neg (by simp [hopen])]
  cases hsession : t.hasSession with
  | true =>
    simp only [handOverCargo, openSession, hsession]
    rfl
  | false =>
    simp only [handOverCargo, openSession, hsession]
    rfl

section HandOverCargo

variable (q : SignedRequest) (live : Bool) (cargo : Cargo) (shortage : Option Fault)

/-- What a request that is handed over comes to is decided by the shortage, or else by the session.
-/
theorem comesTo_handOverCargo : (t.handOverCargo q live cargo shortage).1.comesTo =
    .ofShortage shortage live (t.supply.delivery t.delivered).reply := by
  have hsupply : t.openSession.supply = t.supply := congrArg Ledger.supply t.ledger_openSession
  have hdelivered : t.openSession.delivered = t.delivered :=
    congrArg Ledger.delivered t.ledger_openSession
  cases shortage with
  | some f => rfl
  | none =>
    show SendOutcome.ofReply live (t.openSession.supply.delivery t.openSession.delivered).reply = _
    rw [hsupply, hdelivered]
    rfl

/-- A request that is handed over is added to the exchanges, and uses a delivery unless it is short.
-/
theorem ledger_handOverCargo : (t.handOverCargo q live cargo shortage).2.ledger =
    { t.ledger with
      delivered := t.delivered + if shortage.isSome then 0 else 1
      exchanges := t.journal.exchanges ++ [{ request := q, cargo, isLive := live }] } := by
  have hbooks := t.ledger_openSession
  have hdelivered : t.openSession.delivered = t.delivered := congrArg Ledger.delivered hbooks
  have hexchanges : t.openSession.journal.exchanges = t.journal.exchanges :=
    congrArg Ledger.exchanges hbooks
  calc
    _ = { t.openSession.ledger with
          delivered := t.openSession.delivered + if shortage.isSome then 0 else 1
          exchanges := t.openSession.journal.exchanges ++
            [{ request := q, cargo, isLive := live }] : Ledger } := rfl
    _ = _ := by rw [hbooks, hdelivered, hexchanges]

/-- Only the bytes that are handed over are counted. -/
theorem metrics_handOverCargo :
    (t.handOverCargo q live cargo shortage).2.metrics = t.metrics.countSent cargo.size := by
  have hmetrics : t.openSession.metrics = t.metrics := by
    rw [openSession]
    split <;> rfl
  exact congrArg (·.countSent cargo.size) hmetrics

/-- The place of a request that is handed over is behind the exchanges before it. -/
theorem exchange_handOverCargo :
    (t.handOverCargo q live cargo shortage).1.exchange = t.journal.exchanges.length :=
  congrArg (·.exchanges.length) t.ledger_openSession

/-- **One exchange.** What is handed over is added to the exchanges, and uses a delivery unless it
is short; the answer is what has come of the request, and so is what is counted of the attempt. -/
theorem settle_handOverCargo :
    ∃ a t' x, (t.handOverCargo q live cargo shortage).2.settle
        (t.handOverCargo q live cargo shortage).1 = (a, t') ∧
      x.request = q ∧ x.cargo = cargo ∧ x.isLive = live ∧
      a.map (·.response) = (SendOutcome.ofShortage shortage live
        (t.supply.delivery t.delivered).reply).result q t.config.requestTimeout ∧
      t'.ledger =
        { t.ledger with
          delivered := t.delivered + if shortage.isSome then 0 else 1
          exchanges := t.journal.exchanges ++ [x] } ∧
      t'.metrics = ((t.metrics.countSent cargo.size).countAttempt t.supply.latency).countOutcome
        (.ofShortage shortage live (t.supply.delivery t.delivered).reply) := by
  have hledger := t.ledger_handOverCargo q live cargo shortage
  have hcomesTo := t.comesTo_handOverCargo q live cargo shortage
  have hmetrics := t.metrics_handOverCargo q live cargo shortage
  have hplace := t.exchange_handOverCargo q live cargo shortage
  have hrequest : (t.handOverCargo q live cargo shortage).1.request = q := rfl
  generalize t.handOverCargo q live cargo shortage = handed
    at hledger hcomesTo hmetrics hplace hrequest
  obtain ⟨h, t'⟩ := handed
  dsimp only at hledger hcomesTo hmetrics hplace hrequest ⊢
  have hconfig : t'.config = t.config := congrArg Ledger.config hledger
  have hsupply : t'.supply = t.supply := congrArg Ledger.supply hledger
  have hexchanges : t'.journal.exchanges = t.journal.exchanges ++ [_] :=
    congrArg Ledger.exchanges hledger
  obtain ⟨f, hf, hsettled⟩ := t'.ledger_settle h
  refine ⟨(t'.settle h).1, (t'.settle h).2, f { request := q, cargo, isLive := live }, rfl,
    (hf _).1, (hf _).2.1, (hf _).2.2, ?_, ?_, ?_⟩
  · rw [fst_settle, hcomesTo, hrequest, hconfig]
  · rw [hsettled, hledger, hexchanges, hplace, List.modify_eq_take_cons_drop (by simp)]
    simp
  · rw [metrics_settle, hcomesTo, hmetrics, hsupply]

end HandOverCargo

/-- A request that is handed to an open transport is added to its exchanges with what the session
gets of its body, and uses a delivery unless the body breaks off. -/
theorem handOver_of_open (hopen : t.isClosed = false) (q : SignedRequest) (live : Bool) :
    ∃ h x t', t.handOver q live = (.ok (h, (q.body.handOver t.config.chunkSize.toNat
        (t.supply.delivery t.delivered).pulls).body), t') ∧
      h.exchange = t.journal.exchanges.length ∧ h.request = q ∧ x.request = q ∧
      x.cargo = (q.body.handOver t.config.chunkSize.toNat
        (t.supply.delivery t.delivered).pulls).cargo ∧
      x.isLive = live ∧ t.outcomeAt live t.delivered x = h.comesTo ∧
      t'.ledger =
        { t.ledger with
          delivered := t.delivered + if (t.outcomeAt live t.delivered x).isShort then 0 else 1
          exchanges := t.journal.exchanges ++ [x] } ∧
      t'.metrics = t.metrics.countSent x.cargo.size := by
  obtain ⟨u, hu⟩ : ∃ u, q.body.handOver t.config.chunkSize.toNat
      (t.supply.delivery t.delivered).pulls = u := ⟨_, rfl⟩
  let x : Exchange := { request := q, cargo := u.cargo, isLive := live }
  have houtcome : t.outcomeAt live t.delivered x =
      .ofShortage u.shortage live (t.supply.delivery t.delivered).reply := by
    rw [← hu]
    rfl
  refine ⟨_, x, _, ?_, t.exchange_handOverCargo q live u.cargo u.shortage, rfl, rfl, ?_, rfl, ?_,
    ?_, t.metrics_handOverCargo q live u.cargo u.shortage⟩
  · rw [hu]
    exact t.handOver_eq_handOverCargo hopen q live hu
  · rw [hu]
  · rw [houtcome, comesTo_handOverCargo]
  · rw [houtcome, SendOutcome.isShort_ofShortage]
    exact t.ledger_handOverCargo q live u.cargo u.shortage

/-- **One exchange.** A request that is handed to an open transport is added to its exchanges, and
uses a delivery unless its body breaks off; the answer is what has come of the request, and so is
what is counted of the attempt. -/
theorem settle_handOver (hopen : t.isClosed = false) (q : SignedRequest) (live : Bool) :
    ∃ h x, (t.handOver q live).1 = .ok (h, (q.body.handOver t.config.chunkSize.toNat
        (t.supply.delivery t.delivered).pulls).body) ∧
      x.request = q ∧
      x.cargo = (q.body.handOver t.config.chunkSize.toNat
        (t.supply.delivery t.delivered).pulls).cargo ∧
      ((t.handOver q live).2.settle h).1.map (·.response) =
        (t.outcomeAt live t.delivered x).result q t.config.requestTimeout ∧
      ((t.handOver q live).2.settle h).2.ledger =
        { t.ledger with
          delivered := t.delivered + if (t.outcomeAt live t.delivered x).isShort then 0 else 1
          exchanges := t.journal.exchanges ++ [x] } ∧
      x.isLive = live ∧
      ((t.handOver q live).2.settle h).2.metrics =
        ((t.metrics.countSent x.cargo.size).countAttempt t.supply.latency).countOutcome
          (t.outcomeAt live t.delivered x) := by
  obtain ⟨u, hu⟩ : ∃ u, q.body.handOver t.config.chunkSize.toNat
      (t.supply.delivery t.delivered).pulls = u := ⟨_, rfl⟩
  obtain ⟨a, t', x, hsettle, hx, hcargo, hlive, hanswer, hledger, hmetrics⟩ :=
    t.settle_handOverCargo q live u.cargo u.shortage
  have houtcome : t.outcomeAt live t.delivered x =
      .ofShortage u.shortage live (t.supply.delivery t.delivered).reply := by
    rw [← hu, outcomeAt, hx]
    rfl
  rw [t.handOver_eq_handOverCargo hopen q live hu, hu]
  refine ⟨_, x, rfl, hx, hcargo, ?_, ?_, hlive, ?_⟩
  · rw [hsettle, houtcome]
    exact hanswer
  · rw [hsettle, houtcome, SendOutcome.isShort_ofShortage]
    exact hledger
  · rw [hsettle, houtcome, hcargo]
    exact hmetrics

end Transport

end CloudClient
