import CloudClient.Proofs.Request.Repetition
import CloudClient.Proofs.Signature.Signed
import CloudClient.Proofs.Transport.Sending

/-!
# Calls are repeated safely

A call of either service is followed from its request to its end. Main statement: whatever the
session does, a call that must not be repeated sends one request, any other call sends a request
again only after a passing failure and while its policy allows, each request is signed for itself,
and the last outcome alone decides the end of the call.
-/

namespace CloudClient

/-- A call of one of the services, on a connection to it. -/
inductive ServiceCall where
  | storage (connection : StorageConnection) (call : StorageCall)
  | queue (connection : QueueConnection) (call : QueueCall)

/-- The end of a call whose request was executed. -/
def CallEnd.ofExecution (info : CallInfo) : Except Failure Answer → CallEnd
  | .error e => ofFailure e
  | .ok a => ofAnswer info a

namespace ServiceCall

/-- Makes the call. -/
def perform : ServiceCall → Flight CallEnd
  | storage connection call => connection.perform call
  | queue connection call => connection.perform call

/-- The request of the call. -/
def request : ServiceCall → Except Failure Request
  | storage connection call => (call.request (some connection.endpoint.region)).mapError .fault
  | queue _ call => call.request QueueRequest.defaultVersion

/-- The policy of the connection. -/
def policy : ServiceCall → RetryPolicy
  | storage connection _ => connection.policy
  | queue connection _ => connection.policy

/-- The credentials of the connection. -/
def credentials : ServiceCall → Credentials
  | storage connection _ => connection.credentials
  | queue connection _ => connection.credentials

/-- The endpoint of the connection. -/
def endpoint : ServiceCall → Endpoint
  | storage connection _ => connection.endpoint
  | queue connection _ => connection.endpoint

/-- The caller wants the body of the answer live. -/
def wantsLive : ServiceCall → Bool
  | storage _ call => call.wantsLive
  | queue .. => false

/-- The fields that every line in the log carries during the call. -/
def scope (r : Request) : ServiceCall → Dict Json
  | storage _ call => call.scope
  | queue _ call => call.scope r

/-- What the decoder of the answer has to know. -/
def info (r : Request) : ServiceCall → CallInfo
  | storage _ call => call.info r
  | queue _ call => call.info r

/-- The call sends or receives messages, or it stores a stream whose place is not known. -/
def isSentOnce (r : Request) : ServiceCall → Bool
  | storage _ call => call.isSentOnce r
  | queue _ call => call.isSentOnce

/-- The request of the call as it is signed at a reading of the clock. -/
def signedAt (c : ServiceCall) (r : Request) :
    Except DateError DateTime → Except Failure SignedRequest :=
  Flight.signedAt r c.credentials c.endpoint

variable {c : ServiceCall} {r : Request}

/-- A call executes its request and decodes the answer. -/
theorem run_perform (h : c.request = .ok r) (t : Transport) :
    c.perform.run t =
      (.ofExecution (c.info r) ((Flight.execute c.policy (c.scope r) c.wantsLive
          (r.signed c.credentials c.endpoint)).run t).1,
        ((Flight.execute c.policy (c.scope r) c.wantsLive
          (r.signed c.credentials c.endpoint)).run t).2) := by
  cases c with
  | storage connection call =>
    rw [perform, StorageConnection.perform, eq_ok_of_mapError h]
    dsimp only
    rw [Flight.run_then]
    dsimp only [policy, scope, wantsLive, credentials, endpoint, info]
    generalize (Flight.execute _ _ _ _).run t = e
    rcases e with ⟨_ | _, t'⟩ <;> rfl
  | queue connection call =>
    have hcall : call.request QueueRequest.defaultVersion = .ok r := h
    rw [perform, QueueConnection.perform, hcall]
    dsimp only
    rw [Flight.run_then]
    dsimp only [policy, scope, wantsLive, credentials, endpoint, info]
    generalize (Flight.execute _ _ _ _).run t = e
    rcases e with ⟨_ | _, t'⟩ <;> rfl

/-- A call without a request ends before anything is done. -/
theorem run_perform_of_refused {e : Failure} (h : c.request = .error e) (t : Transport) :
    c.perform.run t = (.ofFailure e, t) := by
  cases c with
  | storage connection call =>
    obtain ⟨f, hcall, rfl⟩ := exists_of_mapError_eq_error h
    rw [perform, StorageConnection.perform, hcall]
    rfl
  | queue connection call =>
    have hcall : call.request QueueRequest.defaultVersion = .error e := h
    rw [perform, QueueConnection.perform, hcall]
    rfl

/-- The request of a call may be repeated, unless the call is sent once. -/
theorem repeatsUnless (h : c.request = .ok r) : r.RepeatsUnless (c.isSentOnce r) := by
  cases c with
  | storage connection call => exact StorageCall.repeatsUnless (eq_ok_of_mapError h)
  | queue connection call => exact QueueCall.repeatsUnless h

end ServiceCall

namespace SendOutcome

/-- The outcome of a call whose last request came to this: the decoded response, a fault with the
code of the last failure, the fault of the body that broke off, or a failure from outside as it is.
-/
def Ends (info : CallInfo) : SendOutcome → CallOutcome → Prop
  | short f, o => o = .ok (.error f) ∧ f.family = .construction
  | failed f, o =>
    match codeOf f with
    | some code => ∃ g, o = .ok (.error g) ∧ g.family = .transport ∧ g.code = code
    | none => o = .error (.foreign f.cause)
  | answered r, o => o = decode info r

/-- What tells an outcome to the connection tells it to the caller. -/
theorem IsToldBy.ends {o : SendOutcome} {a : Except Failure Answer} (h : o.IsToldBy a)
    (info : CallInfo) :
    o.Ends info (CallEnd.ofExecution info a).outcome := by
  cases o with
  | short f =>
    obtain ⟨rfl, hfamily⟩ := h
    exact ⟨rfl, hfamily⟩
  | failed f =>
    cases hcode : codeOf f with
    | some code =>
      simp only [IsToldBy, Ends, hcode] at h ⊢
      obtain ⟨g, rfl, hfamily, hcode⟩ := h
      exact ⟨g, rfl, hfamily, hcode⟩
    | none =>
      simp only [IsToldBy, Ends, hcode] at h ⊢
      rw [h]
      rfl
  | answered r =>
    obtain ⟨answer, rfl, rfl⟩ := h
    rfl

end SendOutcome

namespace ServiceCall

variable {c : ServiceCall} {r : Request} {m : Nat} {t : Transport} {first : SignedRequest}

/-- The number of attempts after the first that a call may make. -/
def retries (c : ServiceCall) (r : Request) (m : Nat) : Nat := if c.isSentOnce r then 0 else m

/-- The body of a signed request goes back to its start when the call may be repeated. -/
theorem canRewind_of_signedAt (hr : c.request = .ok r)
    (hword : ∀ p, r.body = .stream p → Stream.isWord p.stream.position = true)
    {reading : Except DateError DateTime} {q : SignedRequest} (hq : c.signedAt r reading = .ok q)
    (honce : c.isSentOnce r = false) : q.body.CanRewind := by
  cases reading with
  | error e => cases hq
  | ok time =>
    have hkeeps := Signer.keeps_of_sign hq
    rcases hkeeps.body with hbody | ⟨data, hbody⟩
    · rw [hbody]
      exact (repeatsUnless hr).canRewind honce hword
    · rw [hbody]
      trivial

/-- A call that is sent once has the policy that allows no second attempt, and any other call has
that of the connection. -/
theorem sendingRules_policy (hr : c.request = .ok r)
    (hword : ∀ p, r.body = .stream p → Stream.isWord p.stream.position = true)
    {reading : Except DateError DateTime} (hfirst : c.signedAt r reading = .ok first) :
    (Flight.sendingRules c.policy first).policy =
      if c.isSentOnce r then .single else c.policy := by
  cases reading with
  | error e => cases hfirst
  | ok time =>
    have hidempotent : first.isIdempotent = !c.isSentOnce r := by
      rw [(Signer.keeps_of_sign hfirst).isIdempotent, (repeatsUnless hr).isIdempotent]
    rw [Flight.sendingRules]
    cases honce : c.isSentOnce r with
    | true =>
      rw [honce] at hidempotent
      simp [SignedRequest.isRepeatable, hidempotent]
    | false =>
      rw [honce] at hidempotent
      have hbody := canRewind_of_signedAt hr hword hfirst honce
      simp [SignedRequest.isRepeatable, hidempotent, hbody.isReplayable]

/-- A call of a connection that a caller can have: its policy allows an attempt, and a stream that
it stores stands at a place that it can seek. Policies with a negative number of retries, which no
valid configuration has, are excluded: under them a call counts its request and makes no attempt. -/
structure IsSound (c : ServiceCall) : Prop where
  policy : 0 ≤ c.policy.maxRetries
  position : ∀ r p, c.request = .ok r → r.body = .stream p → Stream.isWord p.stream.position = true

/-- Such a call makes one attempt, or its bodies go back to their start. -/
theorem IsSound.repeats (hc : c.IsSound) (hr : c.request = .ok r) :
    Flight.Repeats r c.credentials c.endpoint c.policy := by
  intro reading first hfirst
  have hword := fun p => hc.position r p hr
  rw [sendingRules_policy hr hword hfirst]
  cases honce : c.isSentOnce r with
  | true => exact .inl rfl
  | false => exact .inr fun reading q hq => canRewind_of_signedAt hr hword hq honce

/-- **Calls are repeated safely.** On an open transport, with a policy of `m` retries whose waits
can be computed, a call hands the requests `xs` and a last one `x` to the session, whatever that
does with them. Each request can be signed when its turn comes, and a stream stands at a place that
it can seek. -/
theorem perform_repeats_safely (c : ServiceCall) (r : Request) (hr : c.request = .ok r) (m : Nat)
    (hm : c.policy.maxRetries = m) (hwaits : c.policy.HasWaits m) (t : Transport)
    (hopen : t.isClosed = false)
    (hsigned : ∀ i ≤ m, ∃ q, c.signedAt r (t.supply.clock (t.readings + i)) = .ok q)
    (hword : ∀ p, r.body = .stream p → Stream.isWord p.stream.position = true) :
    ∃ xs x, (c.perform.run t).2.journal.exchanges = t.journal.exchanges ++ (xs ++ [x]) ∧
      -- how many there are
      (c.isSentOnce r = true → xs = []) ∧
      xs.length ≤ m ∧
      -- a request is followed by another only after a passing failure
      (∀ i y, xs[i]? = some y → (t.outcomeAt c.wantsLive (t.delivered + i) y).IsTransient) ∧
      (c.isSentOnce r = false →
        ¬(t.outcomeAt c.wantsLive (t.delivered + xs.length) x).IsTransient ∨ xs.length = m) ∧
      -- each is signed once
      (c.perform.run t).2.readings = t.readings + (xs ++ [x]).length ∧
      (∀ i y, (xs ++ [x])[i]? = some y → ∃ q b,
        c.signedAt r (t.supply.clock (t.readings + i)) = .ok q ∧ q.body.SentAs b ∧
          y.request = { q with body := b }) ∧
      -- the last outcome is the end of the call
      (t.outcomeAt c.wantsLive (t.delivered + xs.length) x).Ends (c.info r)
        (c.perform.run t).1.outcome := by
  obtain ⟨first, hfirst⟩ := hsigned 0 (Nat.zero_le m)
  rw [Nat.add_zero] at hfirst
  have hpolicy := sendingRules_policy hr hword hfirst
  have hretries : c.retries r m ≤ m := by
    unfold retries
    split <;> omega
  have hattempts : (Flight.sendingRules c.policy first).policy.maxRetries = c.retries r m := by
    rw [hpolicy, retries]
    split
    · rfl
    · exact hm
  have hwaits' : (Flight.sendingRules c.policy first).policy.HasWaits (c.retries r m) := by
    rw [hpolicy, retries]
    split
    · intro i hi
      omega
    · exact hwaits
  have hsignable : Flight.Signable r c.credentials c.endpoint t (c.retries r m) := by
    intro i hi
    obtain ⟨q, hq⟩ := hsigned i (by omega)
    refine ⟨q, hq, fun hpos => canRewind_of_signedAt hr hword hq ?_⟩
    unfold retries at hpos
    split at hpos
    · omega
    · simpa using ‹¬c.isSentOnce r = true›
  obtain ⟨scope, t₀, ht₀, hexecute⟩ :=
    Flight.run_execute_eq c.policy hfirst (c.scope r) c.wantsLive
  obtain ⟨xs, x, stats, a, s, hrun, hlength, hturn, htransient, hstop, htold, delivered, hledger⟩ :=
    Flight.run_sending hattempts hwaits' hopen hfirst hsignable scope ht₀
  rw [hrun] at hexecute
  have hperform : c.perform.run t = (CallEnd.ofExecution (c.info r) a, s.2) := by
    rw [run_perform hr, hexecute]
  rw [hperform]
  refine ⟨xs, x, congrArg Ledger.exchanges hledger, ?_, by omega, htransient, ?_, ?_, hturn,
    htold.ends (c.info r)⟩
  · intro honce
    rw [retries, if_pos honce] at hlength
    exact List.eq_nil_of_length_eq_zero (by omega)
  · intro honce
    rw [retries, if_neg (by simp [honce])] at hstop
    exact hstop
  · rw [List.length_append, List.length_singleton]
    exact congrArg Ledger.readings hledger

/-- A transport whose session never answers in time. -/
def silent : Transport where
  supply :=
    { clock := fun _ => .ok ⟨2024, 1, 1, 0, 0, 0, 0, some 0⟩
      share := fun _ => .zero false
      delivery := fun _ => { reply := .failure .timeout } }

/-- The call for all buckets at a plain endpoint, with one retry. -/
def listing : ServiceCall :=
  .storage
    { credentials := ⟨"id", "secret", none⟩
      endpoint := { url := "http://h", signature := .v2 }
      policy := { maxRetries := 1, jitter := false } } .listAllBuckets

/-- A call that may be repeated once is sent and signed twice when no answer comes, and its fault
tells that the time was over. -/
theorem listing_is_sent_twice :
    (listing.perform.run silent).2.journal.exchanges.length = 2 ∧
      (listing.perform.run silent).2.readings = 2 ∧
      ∃ g, (listing.perform.run silent).1.outcome = .ok (.error g) ∧ g.family = .transport ∧
        g.code = .timeout := by
  have hsigned : ∃ q, listing.signedAt StorageRequest.listAllBuckets
      (.ok ⟨2024, 1, 1, 0, 0, 0, 0, some 0⟩) = .ok q ∧ q.body = .empty := ⟨_, rfl, rfl⟩
  obtain ⟨q, hq, hbody⟩ := hsigned
  obtain ⟨xs, x, hexchanges, -, hlength, -, hstop, hreadings, hturn, hend⟩ :=
    perform_repeats_safely listing StorageRequest.listAllBuckets rfl 1 rfl
      (by
        intro i hi
        obtain rfl : i = 0 := by omega
        exact ⟨.rounded (.ofInt 100), .ofInt 100, rfl, rfl⟩)
      silent rfl (fun _ _ => ⟨q, hq⟩) (by intro p hp; cases hp)
  obtain ⟨q', b, hq', hsent, hx⟩ := hturn xs.length x List.getElem?_concat_length
  obtain rfl : q = q' := Except.ok.inj (hq.symm.trans hq')
  have houtcome : silent.outcomeAt listing.wantsLive (silent.delivered + xs.length) x =
      .failed .timeout := by
    rw [hbody] at hsent
    rw [Transport.outcomeAt, hx, show b = .empty from hsent]
    rfl
  rw [houtcome] at hstop hend
  have htwo : xs.length = 1 := (hstop rfl).resolve_left fun h => h (.inl rfl)
  refine ⟨?_, ?_, hend⟩
  · rw [hexchanges, List.length_append, List.length_append, htwo]
    rfl
  · rw [hreadings, List.length_append, htwo]
    rfl

end ServiceCall

end CloudClient
