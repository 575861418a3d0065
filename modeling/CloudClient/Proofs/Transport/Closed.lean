import CloudClient.Proofs.Signature.Signed
import CloudClient.Proofs.Transport.Interleaving
import CloudClient.Proofs.Transport.Sending

/-!
# Calls on a closed transport

A closed transport refuses the next request of every call, and that fault is never worth another
attempt. Main statements: a call that begins on a closed transport ends with the fault after its
first request was refused, and so does a call that was waiting to send its request again.
-/

namespace CloudClient

namespace Flight

/-- The transport is closed, and this is what comes from outside. -/
def ClosedWith (supply : Supply) (t : Transport) : Prop := t.isClosed = true ∧ t.supply = supply

/-- The failure of a request that a closed transport refuses. -/
def refusal (operation : String) : Failure := .fault (.transportClosed operation)

/-! ## One attempt -/

/-- A closed transport refuses a request. -/
theorem endsWithin_send {supply : Supply} (q : SignedRequest) (live : Bool) (b : Body) :
    (send q live b).EndsWithin (ClosedWith supply)
    (fun p => p.1 = .error (refusal q.operation)) 1 := by
  intro t ht
  have hrefused : (t.handOver { q with body := b } live).1 =
      .error (.transportClosed q.operation) := by
    rw [Transport.handOver, if_pos ht.1]
  refine ⟨(.error (refusal q.operation), b), ?_, rfl⟩
  rw [send, step, hrefused]
  rfl

/-- Sending a request does not wait. The body stays as it is or is left as the session has taken it.
-/
theorem atWaits_send {W : Flight (Except Failure Answer × Body) → Prop}
    {Q : Except Failure Answer × Body → Prop} (q : SignedRequest) (live : Bool) {b : Body}
    (hkept : ∀ a, Q (a, b)) (htaken : ∀ a size pulls, Q (a, (b.handOver size pulls).body)) :
    (send q live b).AtWaits W Q := by
  intro t
  cases hclosed : t.isClosed with
  | true =>
    have hrefused : (t.handOver { q with body := b } live).1 =
        .error (.transportClosed q.operation) := by
      rw [Transport.handOver, if_pos hclosed]
    rw [hrefused]
    exact hkept _
  | false =>
    obtain ⟨h, x, t', hhanded, -⟩ := t.handOver_of_open hclosed { q with body := b } live
    rw [hhanded]
    exact fun a => htaken a _ _

section Calls

variable {request : Request} {credentials : Credentials} {endpoint : Endpoint} {supply : Supply}

/-- An attempt after the first, from the signature that it has got. -/
def sendSigned (live : Bool) (b : Body) :
    Except Failure SignedRequest → Flight (Except Failure Answer × Body)
  | .error e => done (.error e, b)
  | .ok q => countRetry <|
    match (q.body.resume b).rewind with
    | .error e => done (.error e, b)
    | .ok b' => send q live b'

/-- What follows a signature reads the clock first, and goes on from what is signed then. -/
theorem bind_signed {α : Type} (f : Except Failure SignedRequest → Flight α) :
    (request.signed credentials endpoint).bind f =
      clock fun time => f (signedAt request credentials endpoint time) := by
  refine congrArg clock (funext fun time => ?_)
  cases time <;> rfl

/-- An attempt after the first reads the clock, and goes on from what is signed then. -/
theorem sendAgain_signed (live : Bool) (b : Body) :
    sendAgain (request.signed credentials endpoint) live b =
      clock fun time => sendSigned live b (signedAt request credentials endpoint time) := by
  have hbind : sendAgain (request.signed credentials endpoint) live b =
      ((request.signed credentials endpoint).bind fun o => done (o, b)).bind _ := rfl
  rw [hbind, bind_signed]
  refine congrArg clock (funext fun time => ?_)
  dsimp only
  cases signedAt request credentials endpoint time with
  | error e => rfl
  | ok q =>
    show countRetry ((match (q.body.resume b).rewind with
      | .error e => pure (.error e)
      | .ok body => do
        set body
        send q live : WithBody (Except Failure Answer)) b) = _
    rw [sendSigned]
    cases (q.body.resume b).rewind with
    | error e => rfl
    | ok b' => rfl

/-- A request is signed for its operation. -/
theorem operation_of_signedAt {reading : Except DateError DateTime} {q : SignedRequest}
    (h : signedAt request credentials endpoint reading = .ok q) :
    q.operation = request.operation := by
  cases reading with
  | error e => cases h
  | ok time => exact (Signer.keeps_of_sign h).operation

/-- On a closed transport an attempt after the first comes to a refusal when the request can be
signed and its body goes back. -/
theorem endsWithin_sendAgain {b : Body} (hb : b.CanRewind)
    (hsigned : ∀ n, ∃ q, signedAt request credentials endpoint (supply.clock n) = .ok q)
    (hbody : ∀ reading q, signedAt request credentials endpoint reading = .ok q → q.body.CanRewind)
    (live : Bool) :
    (sendAgain (request.signed credentials endpoint) live b).EndsWithin (ClosedWith supply)
      (fun p => p.1 = .error (refusal request.operation)) 3 := by
  rw [sendAgain_signed]
  -- Its steps are the reading of the clock, the count and the refusal.
  intro t ht
  obtain ⟨q, hq⟩ := hsigned t.readings
  obtain ⟨b', hrewind, -⟩ := ((hbody _ q hq).resume hb).rewind
  have htime : t.readClock.1 = supply.clock t.readings := by rw [← ht.2]; rfl
  have hnext : ((clock fun time => sendSigned live b
      (signedAt request credentials endpoint time)).step t).1 = countRetry (send q live b') := by
    rw [step, htime, hq, sendSigned, hrewind]
  rw [hnext, ← operation_of_signedAt hq]
  exact fun _ _ => endsWithin_send q live b'

/-- An attempt after the first does not wait, and leaves a body that can go back to its start. -/
theorem atWaits_sendAgain {W : Flight (Except Failure Answer × Body) → Prop} {b : Body}
    (hb : b.CanRewind) (hbody : ∀ reading q, signedAt request credentials endpoint reading = .ok q →
      q.body.CanRewind) (live : Bool) :
    (sendAgain (request.signed credentials endpoint) live b).AtWaits W
      (fun p => p.2.CanRewind) := by
  rw [sendAgain_signed]
  intro time
  show (sendSigned live b (signedAt request credentials endpoint time)).AtWaits W _
  cases hq : signedAt request credentials endpoint time with
  | error e => exact hb
  | ok q =>
    obtain ⟨b', hrewind, hb'⟩ := ((hbody time q hq).resume hb).rewind
    rw [sendSigned, hrewind]
    exact atWaits_send q live (fun _ => hb') fun _ _ _ => hb'.handOver _ _

/-! ## The attempts of a call -/

variable {first : SignedRequest} {live : Bool} {scope : Dict Json} {r : RetryRules Answer}

/-- Drawing the length of a wait does not wait itself. -/
theorem atWaits_drawDelay {W : Flight (Except Failure Delay × Body) → Prop}
    {Q : Except Failure Delay × Body → Prop} {b : Body} (h : ∀ o, Q (o, b)) (n : Nat) :
    ((r.drawDelay (attemptActions first (request.signed credentials endpoint) live scope) n).run
      b).AtWaits W Q := by
  -- Only the share is asked for from outside: what is made of it is pure.
  have hmade : ∀ f : Binary64 → ExceptT Failure (StateT Body Flight) Delay,
      (∀ x, ∃ o, (f x).run b = done (o, b)) → ∀ x, ((f x).run b).AtWaits W Q := by
    intro f hf x
    obtain ⟨o, ho⟩ := hf x
    rw [ho]
    exact h o
  have hfixed : ∀ (x : Binary64) (f : Binary64 → ExceptT Failure (StateT Body Flight) Delay),
      (∀ x, ∃ o, (f x).run b = done (o, b)) → ((pure x >>= f).run b).AtWaits W Q :=
    fun x f hf => hmade f hf x
  rw [RetryRules.drawDelay]
  split
  · exact h _
  · dsimp only
    split
    · refine hmade _ fun x => ?_
      cases r.policy.delay n x with
      | error e => exact ⟨.error e, rfl⟩
      | ok d => exact ⟨.ok d, rfl⟩
    · refine hfixed _ _ fun x => ?_
      cases r.policy.delay n x with
      | error e => exact ⟨.error e, rfl⟩
      | ok d => exact ⟨.ok d, rfl⟩

/-- A wait for the next attempt leaves the body as it is, also when its length cannot be computed.
-/
theorem atWaits_wait {W : Flight ((AttemptStats × Except Failure Unit) × Body) → Prop}
    {Q : (AttemptStats × Except Failure Unit) × Body → Prop} {b : Body}
    (hfailed : ∀ stats e, Q ((stats, .error e), b))
    (hwaited : ∀ stats, W (done ((stats, .ok ()), b)) ∧ Q ((stats, .ok ()), b))
    (n : Nat) (reason : String) (stats : AttemptStats) :
    (r.wait (attemptActions first (request.signed credentials endpoint) live scope) n reason stats
      b).AtWaits W Q := by
  rw [RetryRules.wait]
  refine AtWaits.bind (atWaits_drawDelay (fun o => ?_) n)
  dsimp only
  cases o with
  | error e => exact hfailed _ _
  | ok d =>
    dsimp only
    cases d.toFloat with
    | error e => exact hfailed _ _
    | ok ms =>
      cases d.seconds with
      | error e => exact hfailed _ _
      | ok seconds => exact hwaited _

/-- The only attempt of a call is followed by no wait. -/
theorem atWaits_runFrom_zero {W : Flight ((AttemptStats × Except Failure Answer) × Body) → Prop}
    (stats : AttemptStats) (b : Body) :
    (r.runFrom (attemptActions first (request.signed credentials endpoint) live scope) 0 0 stats
      b).AtWaits W (fun _ => True) := by
  rw [RetryRules.runFrom]
  refine AtWaits.bind (atWaits_send first live (fun a => ?_) fun a _ _ => ?_)
  all_goals
    dsimp only
    generalize r.judge 0 _ _ _ = verdict
    obtain ⟨stats', outcome | reason⟩ := verdict
    · trivial
    · trivial

/-- **Where the attempts of a call wait.** Every body goes back to its start, so that what holds of
the attempts that are left, before a further one, holds at each wait. -/
theorem atWaits_runFrom {W : Flight ((AttemptStats × Except Failure Answer) × Body) → Prop}
    (hbody : ∀ reading q, signedAt request credentials endpoint reading = .ok q → q.body.CanRewind)
    (hwaits : ∀ left n stats b, b.CanRewind → W (r.runFrom
      (attemptActions first (request.signed credentials endpoint) live scope) left (n + 1) stats b))
    (left : Nat) :
    ∀ (n : Nat) (stats : AttemptStats) (b : Body), b.CanRewind →
      (r.runFrom (attemptActions first (request.signed credentials endpoint) live scope) left n
        stats b).AtWaits W (fun _ => True) := by
  have hattempt : ∀ (W : Flight (Except Failure Answer × Body) → Prop) (n : Nat) (b : Body),
      b.CanRewind →
      ((attemptActions first (request.signed credentials endpoint) live scope).attempt n b).AtWaits
        W (fun p => p.2.CanRewind) := by
    intro W n b hb
    cases n with
    | zero => exact atWaits_send first live (fun _ => hb) fun _ _ _ => hb.handOver _ _
    | succ n => exact atWaits_sendAgain hb hbody live
  induction left with
  | zero =>
    intro n stats b hb
    rw [RetryRules.runFrom]
    refine AtWaits.bind ((hattempt _ n b hb).imp fun p hp => ?_)
    dsimp only
    generalize r.judge n _ _ _ = verdict
    obtain ⟨stats', outcome | reason⟩ := verdict
    · trivial
    · trivial
  | succ left ih =>
    intro n stats b hb
    rw [RetryRules.runFrom]
    refine AtWaits.bind ((hattempt _ n b hb).imp fun p hp => ?_)
    dsimp only
    generalize r.judge n _ _ _ = verdict
    obtain ⟨stats', outcome | reason⟩ := verdict
    · trivial
    · refine AtWaits.bind (atWaits_wait (fun _ _ => trivial) (fun stats => ?_) n reason stats')
      exact ⟨hwaits left n stats p.2 hp, ih (n + 1) stats p.2 hp⟩

/-- A call whose next attempt is refused by a closed transport ends with the refusal as it is: it is
not worth another attempt. -/
theorem endsWithin_runFrom {E : Transport → Prop} {operation : String} {n steps : Nat} {b : Body}
    (hrules : r.retriesFault = Fault.isRetryable)
    (hattempt : ((attemptActions first (request.signed credentials endpoint) live scope).attempt n
      b).EndsWithin E (fun p => p.1 = .error (refusal operation)) steps)
    (left : Nat) (stats : AttemptStats) :
    (r.runFrom (attemptActions first (request.signed credentials endpoint) live scope) left n stats
      b).EndsWithin E (fun p => p.1.2 = .error (refusal operation)) steps := by
  have hfinal : r.isFinal (.error (refusal operation)) = true := by
    rw [refusal, RetryRules.isFinal, hrules]
    rfl
  cases left with
  | zero =>
    rw [RetryRules.runFrom]
    refine hattempt.bind fun p hp => ?_
    obtain ⟨o, b'⟩ := p
    obtain rfl : o = .error (refusal operation) := hp
    dsimp only
    rw [r.judge_of_isFinal hfinal]
    exact ⟨_, rfl, rfl⟩
  | succ left =>
    rw [RetryRules.runFrom]
    refine hattempt.bind fun p hp => ?_
    obtain ⟨o, b'⟩ := p
    obtain rfl : o = .error (refusal operation) := hp
    dsimp only
    rw [r.judge_of_isFinal hfinal]
    exact ⟨_, rfl, rfl⟩

/-! ## Calls -/

/-- A call reads the clock first, and goes on from what is signed then. -/
theorem execute_signed (policy : RetryPolicy) (scope : Dict Json) (live : Bool) :
    execute policy scope live (request.signed credentials endpoint) = clock fun time =>
      match signedAt request credentials endpoint time with
      | .error e => done (.error e)
      | .ok first => countRequest <|
        (((sendingRules policy first).run
          (attemptActions first (request.signed credentials endpoint) live
            ((scope.put "operation" (.text first.operation)).put "resource"
              (.text first.resource)))) first.body).bind fun p => done p.1.2 := by
  refine (bind_signed _).trans (congrArg clock (funext fun time => ?_))
  cases signedAt request credentials endpoint time with
  | error e => rfl
  | ok first => rfl

/-- A call that begins on a closed transport reads the clock, counts its request, and is refused. -/
theorem endsWithin_execute {policy : RetryPolicy}
    (hsigned : ∀ n, ∃ q, signedAt request credentials endpoint (supply.clock n) = .ok q)
    (hpolicy : 0 ≤ policy.maxRetries) (scope : Dict Json) (live : Bool) :
    (execute policy scope live (request.signed credentials endpoint)).EndsWithin (ClosedWith supply)
      (fun a => a = .error (refusal request.operation)) 3 := by
  rw [execute_signed]
  intro t ht
  obtain ⟨first, hfirst⟩ := hsigned t.readings
  have htime : t.readClock.1 = supply.clock t.readings := by rw [← ht.2]; rfl
  rw [step, htime, hfirst]
  intro _ _
  rw [step]
  have hallowed := maxRetries_sendingRules hpolicy first
  rw [RetryRules.run, if_neg (by omega), ← operation_of_signedAt hfirst]
  refine EndsWithin.bind (endsWithin_runFrom rfl ?_ _ _) fun p hp => ⟨_, rfl, hp⟩
  exact endsWithin_send first live first.body

/-- What is left of a call that waits would come to a refusal on a closed transport. -/
theorem atWaits_execute {policy : RetryPolicy} {W : Flight (Except Failure Answer) → Prop}
    (hsigned : ∀ n, ∃ q, signedAt request credentials endpoint (supply.clock n) = .ok q)
    (hrepeats : Repeats request credentials endpoint policy)
    (hW : ∀ rest : Flight (Except Failure Answer), rest.EndsWithin (ClosedWith supply)
      (fun a => a = .error (refusal request.operation)) 3 → W rest)
    (scope : Dict Json) (live : Bool) :
    (execute policy scope live (request.signed credentials endpoint)).AtWaits W
      (fun _ => True) := by
  rw [execute_signed]
  intro time
  dsimp only
  cases hfirst : signedAt request credentials endpoint time with
  | error e => trivial
  | ok first =>
    refine AtWaits.bind (AtWaits.imp (Q := fun _ => True) ?_ fun _ _ => trivial)
    rw [RetryRules.run]
    split
    · trivial
    · rcases hrepeats _ _ hfirst with hsingle | hbody
      -- A body that does not go back is sent once, so that no wait is left.
      · rw [hsingle]
        exact atWaits_runFrom_zero _ _
      · refine atWaits_runFrom hbody (fun left n stats b hb => hW _ ?_) _ 0 {} _ (hbody _ _ hfirst)
        refine EndsWithin.bind (endsWithin_runFrom rfl ?_ left stats) fun p hp => ⟨_, rfl, hp⟩
        exact endsWithin_sendAgain hb hsigned hbody live

end Calls

end Flight

end CloudClient
