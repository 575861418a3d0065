import CloudClient.Connection.Storage
import CloudClient.Proofs.Retry.Delay
import CloudClient.Proofs.Retry.Loop
import CloudClient.Proofs.Transport.Exchange
import CloudClient.Proofs.Transport.Rewind

/-!
# Attempts on a transport

The attempts to send a request are steps of a call on a transport, along with the body of the
request. This module follows one call from its first signature to its last attempt and says what it
has handed to the session, how often it has signed, and what it ends with.
-/

namespace CloudClient

namespace Flight

variable {α : Type}

/-- Calls in a row are run in a row. -/
theorem run_then {β : Type} (x : Flight α) (f : α → Flight β) (t : Transport) :
    (x >>= f).run t = (f (x.run t).1).run (x.run t).2 :=
  run_bind x f t

/-- Steps of a call with a state of its own, such as the body at hand, taken on a transport. -/
def onTransport {σ : Type} : Interpretation (StateT σ Flight) (σ × Transport) where
  run x s := (((x s.1).run s.2).1.1, ((x s.1).run s.2).1.2, ((x s.1).run s.2).2)
  run_pure _ _ := rfl
  run_bind x f s := by
    have hbind : (x >>= f) s.1 = (x s.1).bind fun p => f p.1 p.2 := rfl
    rw [hbind, run_bind]
  run_map f x s := by
    have hmap : (f <$> x) s.1 = (x s.1).bind fun p => done (f p.1, p.2) := rfl
    rw [hmap, run_bind]
    rfl

/-- Steps without a body leave the body as it is. -/
theorem run_lift (x : Flight α) (s : Body × Transport) :
    onTransport.run (liftM x : StateT Body Flight α) s = ((x.run s.2).1, s.1, (x.run s.2).2) := by
  have hlift : (liftM x : StateT Body Flight α) s.1 = x.bind fun a => done (a, s.1) := rfl
  show ((((liftM x : StateT Body Flight α) s.1).run s.2).1.1, _, _) = _
  rw [hlift, run_bind]
  rfl

/-- The body that is at hand. -/
theorem run_get (s : Body × Transport) :
    onTransport.run (get : StateT Body Flight Body) s = (s.1, s) :=
  rfl

/-- A request that is sent on an open transport, with the body that is at hand: what is added to the
books of the transport, and what is counted. -/
theorem run_send {t : Transport} (hopen : t.isClosed = false) (q : SignedRequest) (live : Bool)
    (b : Body) :
    ∃ x t' a, onTransport.run (send q live) (b, t) =
        (a, (b.handOver t.config.chunkSize.toNat (t.supply.delivery t.delivered).pulls).body, t') ∧
      x.request = { q with body := b } ∧
      x.cargo = (b.handOver t.config.chunkSize.toNat (t.supply.delivery t.delivered).pulls).cargo ∧
      a.map (·.response) =
        (t.outcomeAt live t.delivered x).result x.request t.config.requestTimeout ∧
      t'.ledger =
        { t.ledger with
          delivered := t.delivered + if (t.outcomeAt live t.delivered x).isShort then 0 else 1
          exchanges := t.journal.exchanges ++ [x] } ∧
      x.isLive = live ∧
      t'.metrics = ((t.metrics.countSent x.cargo.size).countAttempt t.supply.latency).countOutcome
        (t.outcomeAt live t.delivered x) := by
  obtain ⟨h, x, hhanded, hx, hcargo, hanswer, hledger, hcounted⟩ :=
    t.settle_handOver hopen { q with body := b } live
  refine ⟨x, _, _, ?_, hx, hcargo, by rw [hx]; exact hanswer, hledger, hcounted⟩
  have hsend : (send q live b).run t =
      ((((t.handOver { q with body := b } live).2.settle h).1,
        (b.handOver t.config.chunkSize.toNat (t.supply.delivery t.delivered).pulls).body),
        ((t.handOver { q with body := b } live).2.settle h).2) := by
    rw [send, Flight.run]
    dsimp only
    rw [hhanded]
    rfl
  show ((((send q live b).run t).1.1, _, _) : _ × _ × _) = _
  rw [hsend]

/-- A closed transport takes no request. -/
theorem run_send_of_closed {t : Transport} (hclosed : t.isClosed = true) (q : SignedRequest)
    (live : Bool) (b : Body) : ∃ a, onTransport.run (send q live) (b, t) = (a, b, t) := by
  have hrefused : t.handOver { q with body := b } live =
      (.error (.transportClosed q.operation), t) := by
    rw [Transport.handOver, if_pos hclosed]
  have hsend : (send q live b).run t =
      ((.error (.fault (.transportClosed q.operation)), b), t) := by
    rw [send, Flight.run]
    dsimp only
    rw [hrefused]
    rfl
  refine ⟨.error (.fault (.transportClosed q.operation)), ?_⟩
  show ((((send q live b).run t).1.1, _, _) : _ × _ × _) = _
  rw [hsend]

/-- A request that is sent again: it is signed anew and put back to its start. -/
theorem run_sendAgain {t : Transport} {sign : Flight (Except Failure SignedRequest)}
    {q : SignedRequest} {b b' : Body} (hsign : (sign.run t).1 = .ok q)
    (hrewind : (q.body.resume b).rewind = .ok b') (live : Bool) :
    onTransport.run (sendAgain sign live) (b, t) =
      onTransport.run (send q live) (b', (sign.run t).2.count (·.countRetry)) := by
  rw [sendAgain, onTransport.run_bind, run_lift]
  dsimp only
  rw [hsign]
  dsimp only
  rw [onTransport.run_bind, run_lift, onTransport.run_bind, run_get]
  dsimp only
  rw [hrewind]
  rfl

/-- A request that is not sent again because it cannot be signed. -/
theorem run_sendAgain_of_unsigned {t : Transport} {sign : Flight (Except Failure SignedRequest)}
    {e : Failure} (hsign : (sign.run t).1 = .error e) (live : Bool) (b : Body) :
    onTransport.run (sendAgain sign live) (b, t) = (.error e, b, (sign.run t).2) := by
  rw [sendAgain, onTransport.run_bind, run_lift]
  dsimp only
  rw [hsign]
  rfl

/-- A request that is not sent again: it cannot be signed, or its body does not go back. Signing is
all that has been done. -/
theorem run_sendAgain_of_refused {t : Transport} {sign : Flight (Except Failure SignedRequest)}
    {b : Body} (h : ∀ q b', (sign.run t).1 = .ok q → (q.body.resume b).rewind ≠ .ok b')
    (live : Bool) :
    ∃ a t', onTransport.run (sendAgain sign live) (b, t) = (a, b, t') ∧
      t'.ledger = (sign.run t).2.ledger := by
  cases hsign : (sign.run t).1 with
  | error e => exact ⟨_, _, run_sendAgain_of_unsigned hsign live b, rfl⟩
  | ok q =>
    rw [sendAgain, onTransport.run_bind, run_lift]
    dsimp only
    rw [hsign]
    dsimp only
    rw [onTransport.run_bind, run_lift, onTransport.run_bind, run_get]
    dsimp only
    cases hrewind : (q.body.resume b).rewind with
    | error e => exact ⟨.error e, _, rfl, rfl⟩
    | ok b' => exact absurd hrewind (h q b' hsign)

/-! ## Waits -/

/-- A wait leaves the body and the books of the transport as they are. -/
theorem run_wait_onTransport {r : RetryRules Answer} {attempts n : Nat}
    (hwaits : r.policy.HasWaits attempts) (hn : n < attempts) (first : SignedRequest)
    (sign : Flight (Except Failure SignedRequest)) (live : Bool) (scope : Dict Json)
    (reason : String) (stats : AttemptStats) (s : Body × Transport) :
    ∃ ms t', onTransport.run (r.wait (attemptActions first sign live scope) n reason stats) s =
        ((stats.addDelay ms, .ok ()), s.1, t') ∧ t'.ledger = s.2.ledger := by
  let act := attemptActions first sign live scope
  obtain ⟨t', hdrawn, hbooks⟩ : ∃ t', (RetryRules.drawn onTransport act r s).2 = (s.1, t') ∧
      t'.ledger = s.2.ledger := by
    rw [RetryRules.drawn]
    split
    · exact ⟨_, rfl, rfl⟩
    · exact ⟨_, rfl, rfl⟩
  obtain ⟨d, ms, seconds, hd, hms, hseconds⟩ :=
    hwaits.exists_delay hn (RetryRules.drawn onTransport act r s).1
  have hwait := RetryRules.run_wait onTransport act hd hms hseconds reason stats
  rw [hdrawn] at hwait
  exact ⟨ms, (RetryRules.paused onTransport act r n reason ms seconds (s.1, t')).2, hwait, hbooks⟩

/-- A statement about the body at hand and the books of the transport that passes over every attempt
passes over every step of a call: nothing else touches either. -/
theorem kept_of_attempt {Inv : Nat → Body → Ledger → Prop} {first : SignedRequest}
    {sign : Flight (Except Failure SignedRequest)} {live : Bool} {scope : Dict Json}
    (h : ∀ n b t, Inv n b t.ledger → ∃ a b' t',
      onTransport.run ((attemptActions first sign live scope).attempt n) (b, t) = (a, b', t') ∧
        Inv (n + 1) b' t'.ledger) :
    RetryRules.Kept onTransport (attemptActions first sign live scope)
      (fun n s => Inv n s.1 s.2.ledger) where
  attempt := by
    rintro n ⟨b, t⟩ hs
    obtain ⟨a, b', t', hrun, hinv⟩ := h n b t hs
    rw [hrun]
    exact hinv
  share hs := hs
  warn _ hs := hs
  pause _ hs := hs

/-! ## Verdicts -/

section Verdicts

variable {policy : RetryPolicy} {first : SignedRequest} {a : Except Failure Answer}
  {q : SignedRequest} {limit : Binary64} {chunkSize : Nat} {live : Bool} {body : Body}
  {d : Delivery}

/-- An attempt without a response has failed. -/
theorem eq_error_of_map {e : Failure} (h : a.map (·.response) = .error e) : a = .error e := by
  cases a with
  | ok a => cases h
  | error e => cases h; rfl

/-- An attempt is followed by another exactly when its outcome was a passing one. -/
theorem isFinal_eq_false_iff
    (h : a.map (·.response) = (SendOutcome.ofDelivery chunkSize live body d).result q limit) :
    (sendingRules policy first).isFinal a = false ↔
      (SendOutcome.ofDelivery chunkSize live body d).IsTransient := by
  cases ho : SendOutcome.ofDelivery chunkSize live body d with
  | short f =>
    have hfamily := SendOutcome.family_of_ofDelivery ho
    rw [ho] at h
    rw [eq_error_of_map h]
    simp [RetryRules.isFinal, sendingRules, Fault.isRetryable, hfamily, SendOutcome.IsTransient]
  | failed f =>
    rw [ho] at h
    have hf := SendOutcome.result_failed f q limit
    split at hf
    · obtain ⟨htransient, g, hg, -, -, hretried⟩ := hf
      rw [eq_error_of_map (h.trans hg)]
      simp [RetryRules.isFinal, sendingRules, hretried, htransient]
    · obtain ⟨htransient, hg⟩ := hf
      rw [eq_error_of_map (h.trans hg)]
      simp [RetryRules.isFinal, htransient]
  | answered r =>
    rw [ho] at h
    cases a with
    | ok a =>
      cases h
      rw [SendOutcome.isTransient_answered]
      simp [RetryRules.isFinal, sendingRules]
    | error e => cases h

/-- The last attempt is told by its outcome. -/
theorem isToldBy_told
    (h : a.map (·.response) = (SendOutcome.ofDelivery chunkSize live body d).result q limit)
    (n : Nat) :
    (SendOutcome.ofDelivery chunkSize live body d).IsToldBy
      ((sendingRules policy first).told n a) := by
  cases ho : SendOutcome.ofDelivery chunkSize live body d with
  | short f =>
    have hfamily := SendOutcome.family_of_ofDelivery ho
    rw [ho] at h
    rw [eq_error_of_map h]
    simp [RetryRules.told, sendingRules, Fault.isRetryable, hfamily, SendOutcome.IsToldBy]
  | failed f =>
    rw [ho] at h
    have hf := SendOutcome.result_failed f q limit
    rw [SendOutcome.IsToldBy]
    split at hf
    · obtain ⟨-, g, hg, hfamily, hcode, -⟩ := hf
      rw [eq_error_of_map (h.trans hg), RetryRules.told]
      split
      · exact ⟨_, rfl, rfl, hcode⟩
      · exact ⟨_, rfl, hfamily, hcode⟩
    · rw [eq_error_of_map (h.trans hf.2)]
      rfl
  | answered r =>
    rw [ho] at h
    cases a with
    | ok a =>
      cases h
      exact ⟨a, rfl, rfl⟩
    | error e => cases h

end Verdicts

/-- A request may be made by a policy that allows an attempt. -/
theorem maxRetries_sendingRules {policy : RetryPolicy} (h : 0 ≤ policy.maxRetries)
    (first : SignedRequest) : 0 ≤ (sendingRules policy first).policy.maxRetries := by
  unfold sendingRules
  dsimp only
  split
  · exact h
  · decide

/-! ## Calls -/

section Calls

variable (request : Request) (credentials : Credentials) (endpoint : Endpoint)

/-- The request as it is signed at a reading of the clock. -/
def signedAt : Except DateError DateTime → Except Failure SignedRequest
  | .error e => .error (.date e)
  | .ok time => (Signer.ofEndpoint endpoint).sign request credentials endpoint time

/-- Signing takes one reading of the clock. -/
theorem run_signed (t : Transport) :
    (request.signed credentials endpoint).run t =
      (signedAt request credentials endpoint (t.supply.clock t.readings), t.readClock.2) := by
  rw [Request.signed, Flight.run]
  cases h : t.supply.clock t.readings with
  | error e =>
    rw [Transport.readClock, h]
    rfl
  | ok time =>
    rw [Transport.readClock, h]
    rfl

/-- Each exchange of a call is of the request as it was signed at a reading of the clock of its
own. -/
def SignedInTurn (t : Transport) (xs : List Exchange) : Prop :=
  ∀ i x, xs[i]? = some x → ∃ q b,
    signedAt request credentials endpoint (t.supply.clock (t.readings + i)) = .ok q ∧
      q.body.SentAs b ∧ x.request = { q with body := b }

variable {request credentials endpoint} in
/-- One more exchange. -/
theorem SignedInTurn.concat {t : Transport} {xs : List Exchange} {x : Exchange} {q : SignedRequest}
    {b : Body} (h : SignedInTurn request credentials endpoint t xs)
    (hq : signedAt request credentials endpoint (t.supply.clock (t.readings + xs.length)) = .ok q)
    (hb : q.body.SentAs b) (hx : x.request = { q with body := b }) :
    SignedInTurn request credentials endpoint t (xs ++ [x]) :=
  forall_getElem?_concat h ⟨q, b, hq, hb, hx⟩

/-- The books of a transport after exchanges, of which the last has used so many deliveries. -/
def after (t : Transport) (readings delivered : Nat) (xs : List Exchange) : Ledger :=
  { t.ledger with
    readings := t.readings + readings
    delivered := t.delivered + delivered
    exchanges := t.journal.exchanges ++ xs }

/-- What holds of a call before an attempt: each attempt before has made one exchange, whose outcome
was a passing one. -/
structure Underway (t : Transport) (live : Bool) (first : SignedRequest) (attempts n : Nat)
    (xs : List Exchange) (s : Body × Transport) : Prop where
  made : xs.length = n
  signed : SignedInTurn request credentials endpoint t xs
  transient : ∀ i x, xs[i]? = some x → (t.outcomeAt live (t.delivered + i) x).IsTransient
  ledger : s.2.ledger = after t (max 1 n) n xs
  body : 0 < attempts → s.1.CanRewind
  fresh : n = 0 → s.1 = first.body

/-- The request of a call can be signed at all times at which it may be sent, and goes back to its
start when it may be sent more than once. -/
def Signable (t : Transport) (attempts : Nat) : Prop :=
  ∀ i ≤ attempts, ∃ q,
    signedAt request credentials endpoint (t.supply.clock (t.readings + i)) = .ok q ∧
      (0 < attempts → q.body.CanRewind)

/-- A call makes one attempt at most, or every body that it sends goes back to its start. -/
def Repeats (policy : RetryPolicy) : Prop :=
  ∀ reading first, signedAt request credentials endpoint reading = .ok first →
    (sendingRules policy first).policy.maxRetries = 0 ∨
      ∀ reading q, signedAt request credentials endpoint reading = .ok q → q.body.CanRewind

variable {request credentials endpoint} {t : Transport} {live : Bool} {first : SignedRequest}
  {attempts n : Nat} {xs : List Exchange} {s : Body × Transport}

/-- A call at its start has made no exchange. -/
theorem Underway.start (hfirst :
      signedAt request credentials endpoint (t.supply.clock t.readings) = .ok first)
    (hsignable : Signable request credentials endpoint t attempts) {t₀ : Transport}
    (ht₀ : t₀.ledger = after t 1 0 []) :
    Underway request credentials endpoint t live first attempts 0 [] (first.body, t₀) where
  made := rfl
  signed := by
    intro i x hx
    cases hx
  transient := by
    intro i x hx
    cases hx
  ledger := ht₀
  body := by
    intro hpos
    obtain ⟨q, hq, hbody⟩ := hsignable 0 (Nat.zero_le _)
    rw [Nat.add_zero, hfirst] at hq
    cases hq
    exact hbody hpos
  fresh _ := rfl

/-- Each attempt comes to sending the request as it is signed at the next reading of the clock. -/
theorem Underway.exists_send
    (h : Underway request credentials endpoint t live first attempts n xs s) (hn : n ≤ attempts)
    (hfirst : signedAt request credentials endpoint (t.supply.clock t.readings) = .ok first)
    (hsignable : Signable request credentials endpoint t attempts) (scope : Dict Json) :
    ∃ q b t', onTransport.run
          ((attemptActions first (request.signed credentials endpoint) live scope).attempt n) s =
        onTransport.run (send q live) (b, t') ∧
      signedAt request credentials endpoint (t.supply.clock (t.readings + n)) = .ok q ∧
      q.body.SentAs b ∧ t'.ledger = after t (n + 1) n xs ∧ (0 < attempts → b.CanRewind) := by
  obtain ⟨b, t'⟩ := s
  cases n with
  | zero =>
    obtain rfl : b = first.body := h.fresh rfl
    exact ⟨first, _, t', rfl, hfirst, .refl _, h.ledger, h.body⟩
  | succ n =>
    obtain ⟨q, hq, hbody⟩ := hsignable (n + 1) hn
    have hpos : 0 < attempts := by omega
    obtain ⟨b', hrewind, hb'⟩ := ((hbody hpos).resume (h.body hpos)).rewind
    have hsupply : t'.supply = t.supply := congrArg Ledger.supply h.ledger
    have hreadings : t'.readings = t.readings + (n + 1) := by
      have hmax : max 1 (n + 1) = n + 1 := by omega
      rw [← hmax]
      exact congrArg Ledger.readings h.ledger
    have hrun := run_signed request credentials endpoint t'
    rw [hsupply, hreadings, hq] at hrun
    refine ⟨q, b', _, run_sendAgain (by rw [hrun]) hrewind live, hq, .of_rewind hrewind, ?_,
      fun _ => hb'⟩
    rw [hrun, Transport.ledger_count, Transport.ledger_readClock, h.ledger, hreadings]
    rfl

/-- Each attempt makes one exchange, and comes to what is the outcome of the next delivery. -/
theorem Underway.exists_exchange
    (h : Underway request credentials endpoint t live first attempts n xs s) (hn : n ≤ attempts)
    (hopen : t.isClosed = false)
    (hfirst : signedAt request credentials endpoint (t.supply.clock t.readings) = .ok first)
    (hsignable : Signable request credentials endpoint t attempts) (scope : Dict Json) :
    ∃ x a s', onTransport.run
          ((attemptActions first (request.signed credentials endpoint) live scope).attempt n) s =
        (a, s') ∧
      SignedInTurn request credentials endpoint t (xs ++ [x]) ∧
      a.map (·.response) =
        (t.outcomeAt live (t.delivered + n) x).result x.request t.config.requestTimeout ∧
      s'.2.ledger =
        after t (n + 1) (n + if (t.outcomeAt live (t.delivered + n) x).isShort then 0 else 1)
          (xs ++ [x]) ∧
      (0 < attempts → s'.1.CanRewind) := by
  obtain ⟨q, b, t', hattempt, hq, hsent, hledger, hb⟩ := h.exists_send hn hfirst hsignable scope
  have hclosed : t'.isClosed = t.isClosed := congrArg Ledger.isClosed hledger
  have hconfig : t'.config = t.config := congrArg Ledger.config hledger
  have hsupply : t'.supply = t.supply := congrArg Ledger.supply hledger
  have hdelivered : t'.delivered = t.delivered + n := congrArg Ledger.delivered hledger
  have hexchanges : t'.journal.exchanges = t.journal.exchanges ++ xs :=
    congrArg Ledger.exchanges hledger
  obtain ⟨x, t'', a, hsend, hx, -, ha, hbooks, -⟩ := run_send (hclosed.trans hopen) q live b
  have houtcome : t'.outcomeAt live t'.delivered x = t.outcomeAt live (t.delivered + n) x := by
    rw [Transport.outcomeAt, Transport.outcomeAt, hconfig, hsupply, hdelivered]
  rw [houtcome, hconfig] at ha
  refine ⟨x, a, _, hattempt.trans hsend, h.signed.concat (by rw [h.made]; exact hq) hsent hx, ha,
    ?_, ?_⟩
  · rw [hbooks, houtcome, hledger, hdelivered, hexchanges, after, after, List.append_assoc,
      Nat.add_assoc]
  · intro hpos
    exact (hb hpos).handOver _ _

/-- A passing outcome leads to the next attempt. -/
theorem Underway.next {x : Exchange} {s' : Body × Transport}
    (h : Underway request credentials endpoint t live first attempts n xs s)
    (hsigned : SignedInTurn request credentials endpoint t (xs ++ [x]))
    (htransient : (t.outcomeAt live (t.delivered + n) x).IsTransient)
    (hledger : s'.2.ledger = after t (n + 1) (n + 1) (xs ++ [x]))
    (hbody : 0 < attempts → s'.1.CanRewind) :
    Underway request credentials endpoint t live first attempts (n + 1) (xs ++ [x]) s' where
  made := by rw [List.length_append, List.length_singleton, h.made]
  signed := hsigned
  transient := by
    refine forall_getElem?_concat h.transient ?_
    rw [h.made]
    exact htransient
  ledger := by
    rw [hledger, Nat.max_eq_right (by omega)]
  body := hbody
  fresh := by omega

/-- **The attempts of a call.** Every attempt but the last has a passing outcome, the last has one
that is not or uses up the policy, and the end of the call is told by it. -/
theorem run_sending {policy : RetryPolicy}
    (hattempts : (sendingRules policy first).policy.maxRetries = attempts)
    (hwaits : (sendingRules policy first).policy.HasWaits attempts) (hopen : t.isClosed = false)
    (hfirst : signedAt request credentials endpoint (t.supply.clock t.readings) = .ok first)
    (hsignable : Signable request credentials endpoint t attempts) (scope : Dict Json)
    {t₀ : Transport} (ht₀ : t₀.ledger = after t 1 0 []) :
    ∃ xs x stats a s', onTransport.run ((sendingRules policy first).run
          (attemptActions first (request.signed credentials endpoint) live scope))
            (first.body, t₀) = ((stats, a), s') ∧
      xs.length ≤ attempts ∧
      SignedInTurn request credentials endpoint t (xs ++ [x]) ∧
      (∀ i y, xs[i]? = some y → (t.outcomeAt live (t.delivered + i) y).IsTransient) ∧
      (¬(t.outcomeAt live (t.delivered + xs.length) x).IsTransient ∨ xs.length = attempts) ∧
      (t.outcomeAt live (t.delivered + xs.length) x).IsToldBy a ∧
      ∃ delivered, s'.2.ledger = after t (xs.length + 1) delivered (xs ++ [x]) := by
  obtain ⟨n, hn, stats, s, ⟨htotal, xs, hunder⟩, hstop, hrun⟩ :=
    RetryRules.run_run_of_invariant onTransport
      (attemptActions first (request.signed credentials endpoint) live scope) hattempts
      (fun n stats s => stats.total = n ∧
        ∃ xs, Underway request credentials endpoint t live first attempts n xs s)
      (fun _ _ _ h => h.1) (by
        rintro n stats s hn ⟨htotal, xs, hunder⟩ hagain
        obtain ⟨x, a, s', hattempt, hsigned, ha, hledger, hbody⟩ :=
          hunder.exists_exchange (by omega) hopen hfirst hsignable scope
        rw [hattempt] at hagain ⊢
        have htransient : (t.outcomeAt live (t.delivered + n) x).IsTransient :=
          (isFinal_eq_false_iff ha).1 hagain
        obtain ⟨ms, t', hwait, hbooks⟩ := run_wait_onTransport hwaits hn first
          (request.signed credentials endpoint) live scope (RetryRules.reasonOf a)
          (stats.tallyAgain a) s'
        rw [htransient.isShort] at hledger
        refine ⟨_, _, hwait, ?_, xs ++ [x], ?_⟩
        · exact (stats.total_tallyAgain a).trans (congrArg (· + 1) htotal)
        · exact hunder.next hsigned htransient (hbooks.trans hledger) hbody)
      ⟨rfl, [], Underway.start hfirst hsignable ht₀⟩
  obtain ⟨x, a, s', hattempt, hsigned, ha, hledger, -⟩ :=
    hunder.exists_exchange hn hopen hfirst hsignable scope
  rw [hattempt] at hstop hrun
  have hmade := hunder.made
  subst hmade
  refine ⟨xs, x, _, _, _, hrun, hn, hsigned, hunder.transient, ?_, isToldBy_told ha _, _, hledger⟩
  refine hstop.imp_left fun hfinal htransient => ?_
  rw [(isFinal_eq_false_iff ha).2 htransient] at hfinal
  cases hfinal

/-- The first signature of a call, and its attempts after it. -/
theorem run_execute_of_signed (policy : RetryPolicy)
    (hfirst : signedAt request credentials endpoint (t.supply.clock t.readings) = .ok first)
    (scope : Dict Json) (live : Bool) :
    ∃ scope', (execute policy scope live (request.signed credentials endpoint)).run t =
      ((onTransport.run ((sendingRules policy first).run
          (attemptActions first (request.signed credentials endpoint) live scope'))
            (first.body, t.readClock.2.count (·.countRequest))).1.2,
        (onTransport.run ((sendingRules policy first).run
          (attemptActions first (request.signed credentials endpoint) live scope'))
            (first.body, t.readClock.2.count (·.countRequest))).2.2) := by
  refine ⟨(scope.put "operation" (.text first.operation)).put "resource" (.text first.resource), ?_⟩
  rw [execute, run_then, run_signed, hfirst]
  dsimp only
  rw [run_then, run_then]
  rfl

/-- The attempts of a call begin when the books know of its first signature. -/
theorem run_execute_eq (policy : RetryPolicy)
    (hfirst : signedAt request credentials endpoint (t.supply.clock t.readings) = .ok first)
    (scope : Dict Json) (live : Bool) :
    ∃ scope' t₀, t₀.ledger = after t 1 0 [] ∧
      (execute policy scope live (request.signed credentials endpoint)).run t =
        ((onTransport.run ((sendingRules policy first).run
            (attemptActions first (request.signed credentials endpoint) live scope'))
              (first.body, t₀)).1.2,
          (onTransport.run ((sendingRules policy first).run
            (attemptActions first (request.signed credentials endpoint) live scope'))
              (first.body, t₀)).2.2) := by
  obtain ⟨scope', hrun⟩ := run_execute_of_signed policy hfirst scope live
  refine ⟨scope', t.readClock.2.count (·.countRequest), ?_, hrun⟩
  rw [Transport.ledger_count, Transport.ledger_readClock, after, List.append_nil]
  rfl

/-- A call whose request cannot be signed has read the clock and done nothing else. -/
theorem run_execute_of_unsigned (policy : RetryPolicy) {e : Failure}
    (hunsigned : signedAt request credentials endpoint (t.supply.clock t.readings) = .error e)
    (scope : Dict Json) (live : Bool) :
    (execute policy scope live (request.signed credentials endpoint)).run t =
      (.error e, t.readClock.2) := by
  rw [execute, run_then, run_signed, hunsigned]
  rfl

end Calls

end Flight

end CloudClient
