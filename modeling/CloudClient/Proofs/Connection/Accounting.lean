import CloudClient.Proofs.Connection.RetrySafety
import CloudClient.Proofs.Transport.Accounts

/-!
# Metrics account for every request

Calls of both services and readings of live bodies use one transport in turn. Main statement:
whatever the session does, after each of them the metrics are what the requests that were handed to
the session, their outcomes and the bytes that were read add up to, and a call that hands over
nothing has changed no counter.
-/

namespace CloudClient

namespace Flight

/-- The books balance while the attempts of a call are made. Before the first of them, one request
is counted that was not attempted yet. -/
structure Counting (read before n : Nat) (books : Ledger) (m : TransportMetrics) : Prop where
  isOpen : books.isClosed = false
  balances : books.Balances m read
  attempts : m.requests + m.retries = m.attempts + if n = 0 then 1 else 0
  made : before + min n 1 ≤ m.attempts

namespace Counting

variable {t : Transport} {read before n : Nat} {books : Ledger} {m : TransportMetrics}

/-- Nothing more is said of an attempt after the first. -/
theorem succ (h : Counting read before (n + 1) books m) (k : Nat) :
    Counting read before (k + 1) books m where
  isOpen := h.isOpen
  balances := h.balances
  attempts := h.attempts
  made := by
    have := h.made
    omega

/-- A transport on which an attempt has been made is balanced. -/
theorem isBalanced (h : Counting read before n t.ledger t.metrics) (hn : 0 < n) :
    t.IsBalanced read where
  isOpen := h.isOpen
  balances := h.balances
  attempts := by
    have := h.attempts
    rw [if_neg (by omega)] at this
    exact this.symm

/-- A request that is sent again is counted before it is attempted. -/
theorem countRetry (h : Counting read before (n + 1) books m) :
    Counting read before 0 books m.countRetry where
  isOpen := h.isOpen
  balances := h.balances.of_requests _ _
  attempts := by
    have := h.attempts
    show m.requests + (m.retries + 1) = m.attempts + 1
    rw [if_neg (Nat.succ_ne_zero n)] at this
    omega
  made := by
    have := h.made
    show before + min 0 1 ≤ m.attempts
    omega

/-- A request that was signed has not touched the balance. -/
theorem readClock (h : Counting read before n t.ledger t.metrics) :
    Counting read before n t.readClock.2.ledger t.readClock.2.metrics where
  isOpen := h.isOpen
  balances := h.balances.of_readings _
  attempts := h.attempts
  made := h.made

/-- A call whose first request was signed counts it. -/
theorem start (h : t.IsBalanced read) :
    Counting read t.metrics.attempts 0 (t.readClock.2.count (·.countRequest)).ledger
      (t.readClock.2.count (·.countRequest)).metrics where
  isOpen := h.isOpen
  balances := (h.balances.of_readings _).of_requests _ _
  attempts := by
    have := h.attempts
    show t.metrics.requests + 1 + t.metrics.retries = t.metrics.attempts + 1
    omega
  made := Nat.le_refl t.metrics.attempts

/-- A request that is counted and then sent is attempted once. -/
theorem send (h : Counting read before 0 t.ledger t.metrics) (q : SignedRequest)
    (live : Bool) (b : Body) (n : Nat) :
    ∃ a t', onTransport.run (Flight.send q live) (b, t) =
        (a, (b.handOver t.config.chunkSize.toNat (t.supply.delivery t.delivered).pulls).body, t') ∧
      Counting read before (n + 1) t'.ledger t'.metrics := by
  obtain ⟨x, t', a, hrun, hx, hcargo, -, hledger, hlive, hmetrics⟩ := run_send h.isOpen q live b
  have houtcome : t.outcomeAt live t.delivered x = t.ledger.outcomeAt t.ledger.delivered x := by
    rw [← hlive]
    rfl
  have hsize : x.cargo.size = x.sentSize := Exchange.size_cargo (hcargo.trans (by rw [hx]))
  rw [houtcome] at hledger hmetrics
  refine ⟨a, t', hrun, ?_⟩
  rw [hledger, hmetrics]
  constructor
  case isOpen => exact h.isOpen
  case balances => exact h.balances.exchange hsize _
  case attempts =>
    rw [TransportMetrics.countOutcome_eq]
    exact h.attempts
  case made =>
    rw [TransportMetrics.countOutcome_eq]
    have := h.made
    show before + min (n + 1) 1 ≤ t.metrics.attempts + 1
    omega

end Counting

section Calls

variable {request : Request} {credentials : Credentials} {endpoint : Endpoint}
  {first : SignedRequest} {t : Transport} {read before : Nat}

/-- Attempts are counted, whatever they come to, when every body goes back to its start. -/
theorem kept_counting (hbody : ∀ reading q, signedAt request credentials endpoint reading = .ok q →
      q.body.CanRewind) (first : SignedRequest) (live : Bool) (scope : Dict Json) :
    RetryRules.Kept onTransport
      (attemptActions first (request.signed credentials endpoint) live scope)
      (fun n s => Counting read before n s.2.ledger s.2.metrics ∧ s.1.CanRewind) where
  attempt := by
    rintro n ⟨b, t⟩ ⟨h, hb⟩
    cases n with
    | zero =>
      obtain ⟨a, t', hrun, hnext⟩ := h.send first live b 0
      have hattempt : onTransport.run ((attemptActions first
          (request.signed credentials endpoint) live scope).attempt 0) (b, t) = _ := hrun
      rw [hattempt]
      exact ⟨hnext, hb.handOver _ _⟩
    | succ n =>
      have hsign := run_signed request credentials endpoint t
      cases hq : signedAt request credentials endpoint (t.supply.clock t.readings) with
      | error e =>
        rw [hq] at hsign
        have hattempt : onTransport.run ((attemptActions first
            (request.signed credentials endpoint) live scope).attempt (n + 1)) (b, t) = _ :=
          run_sendAgain_of_unsigned (by rw [hsign]) live b
        rw [hattempt, hsign]
        exact ⟨h.readClock.succ (n + 1), hb⟩
      | ok q =>
        rw [hq] at hsign
        obtain ⟨b', hrewind, hb'⟩ := ((hbody _ _ hq).resume hb).rewind
        have hattempt : onTransport.run ((attemptActions first
            (request.signed credentials endpoint) live scope).attempt (n + 1)) (b, t) = _ :=
          run_sendAgain (by rw [hsign]) hrewind live
        rw [hattempt, hsign]
        obtain ⟨a, t', hrun, hnext⟩ :=
          Counting.send (t := t.readClock.2.count (·.countRetry)) h.readClock.countRetry q
            live b' (n + 1)
        rw [hrun]
        exact ⟨hnext, hb'.handOver _ _⟩
  share hs := hs
  warn _ hs := hs
  pause _ hs := hs

/-- A call whose first request is signed counts its attempts, of which there is at least one. -/
theorem counting_execute {policy : RetryPolicy} (h : t.IsBalanced read)
    (hfirst : signedAt request credentials endpoint (t.supply.clock t.readings) = .ok first)
    (hpolicy : 0 ≤ policy.maxRetries) (hrepeats : Repeats request credentials endpoint policy)
    (scope : Dict Json) (live : Bool) :
    ∃ n t', ((execute policy scope live (request.signed credentials endpoint)).run t).2 = t' ∧
      0 < n ∧ Counting read t.metrics.attempts n t'.ledger t'.metrics := by
  obtain ⟨scope', hrun⟩ := run_execute_of_signed policy hfirst scope live
  rw [hrun]
  have hstart := Counting.start h
  have hallowed := maxRetries_sendingRules hpolicy first
  rcases hrepeats _ _ hfirst with hsingle | hbody
  · obtain ⟨a, t', hsent, hnext⟩ := hstart.send first live first.body 0
    have hattempt : onTransport.run
        ((attemptActions first (request.signed credentials endpoint) live scope').attempt 0)
        (first.body, t.readClock.2.count (·.countRequest)) = _ := hsent
    refine ⟨1, _, rfl, Nat.one_pos, ?_⟩
    rw [RetryRules.run, if_neg (by omega), hsingle, Int.toNat_zero,
      RetryRules.run_runFrom_zero onTransport _ (show ({} : AttemptStats).total = 0 from rfl),
      hattempt]
    exact hnext
  · obtain ⟨k, hk, hend, -⟩ := RetryRules.Kept.run (r := sendingRules policy first)
      (kept_counting hbody first live scope')
        (s := (first.body, t.readClock.2.count (·.countRequest)))
      ⟨hstart, hbody _ _ hfirst⟩
    exact ⟨k, _, rfl, hk hallowed, hend⟩

end Calls

end Flight

namespace ServiceCall

variable {c : ServiceCall} {r : Request} {first : SignedRequest} {t : Transport} {read : Nat}

/-- A call whose request is made and signed counts its attempts, of which there is at least one. -/
theorem counting_perform (hc : c.IsSound) (hr : c.request = .ok r)
    (hfirst : c.signedAt r (t.supply.clock t.readings) = .ok first) (h : t.IsBalanced read) :
    ∃ n, 0 < n ∧ Flight.Counting read t.metrics.attempts n (c.perform.run t).2.ledger
      (c.perform.run t).2.metrics := by
  obtain ⟨n, t', hrun, hn, hend⟩ := Flight.counting_execute h hfirst hc.policy (hc.repeats hr)
    (c.scope r) c.wantsLive
  rw [run_perform hr, hrun]
  exact ⟨n, hn, hend⟩

/-- A call that is rejected before it is sent changes no counter, and adds nothing to the books. -/
theorem perform_of_rejected (hrejected : ∀ r first, c.request = .ok r →
      c.signedAt r (t.supply.clock t.readings) ≠ .ok first) :
    (c.perform.run t).2.metrics = t.metrics ∧
      ∃ readings, (c.perform.run t).2.ledger = { t.ledger with readings } := by
  cases hr : c.request with
  | error e =>
    rw [run_perform_of_refused hr]
    exact ⟨rfl, t.readings, rfl⟩
  | ok r =>
    cases hsigned : c.signedAt r (t.supply.clock t.readings) with
    | error e =>
      rw [run_perform hr, Flight.run_execute_of_unsigned c.policy hsigned]
      exact ⟨rfl, _, rfl⟩
    | ok first => exact absurd hsigned (hrejected r first hr)

/-- **A call keeps the balance.** -/
theorem isBalanced_perform (hc : c.IsSound) (h : t.IsBalanced read) :
    (c.perform.run t).2.IsBalanced read := by
  by_cases hsent : ∃ r first, c.request = .ok r ∧
    c.signedAt r (t.supply.clock t.readings) = .ok first
  · obtain ⟨r, first, hr, hfirst⟩ := hsent
    obtain ⟨n, hn, hend⟩ := counting_perform hc hr hfirst h
    exact hend.isBalanced hn
  · obtain ⟨hmetrics, readings, hledger⟩ := perform_of_rejected (c := c) (t := t)
      fun r first hr hfirst => hsent ⟨r, first, hr, hfirst⟩
    constructor
    case isOpen => exact (congrArg Ledger.isClosed hledger).trans h.isOpen
    case balances =>
      rw [hledger, hmetrics]
      exact h.balances.of_readings readings
    case attempts =>
      rw [hmetrics]
      exact h.attempts

/-- A call that hands nothing to the session changes no counter. -/
theorem metrics_perform_of_unsent (hc : c.IsSound) (h : t.IsBalanced read)
    (hunsent : (c.perform.run t).2.journal.exchanges.length = t.journal.exchanges.length) :
    (c.perform.run t).2.metrics = t.metrics := by
  refine (perform_of_rejected fun r first hr hfirst => ?_).1
  obtain ⟨n, hn, hend⟩ := counting_perform hc hr hfirst h
  -- Every attempt is an exchange, and there is one more than before.
  have hmade := hend.made
  have hafter : (c.perform.run t).2.metrics.attempts =
      (c.perform.run t).2.journal.exchanges.length :=
    hend.balances.attempts
  have hbefore : t.metrics.attempts = t.journal.exchanges.length := h.balances.attempts
  omega

end ServiceCall

/-! ## Uses of a transport -/

/-- What a caller does with a transport: a call, or a step of reading a live body. A page of a
listing is asked for by a call of its own. -/
inductive TransportUse where
  | call (c : ServiceCall)
  | read (b : ObjectBody)
  | readChunks (b : ObjectBody) (size wanted : Option Nat)
  | close (b : ObjectBody)

namespace TransportUse

/-- The transport after a use of it, and the number of bytes of a live body that it gave. -/
def run : TransportUse → Transport → Nat × Transport
  | call c, t => (0, (c.perform.run t).2)
  | read b, t => (ObjectBody.bytesOf (b.read t).1, (b.read t).2)
  | readChunks b size wanted, t =>
    ((b.readChunks size wanted t).1.1.flatten.length, (b.readChunks size wanted t).2)
  | close b, t => (0, b.close t)

/-- The transport after uses in a row, and the number of bytes of live bodies that they gave. -/
def runAll : List TransportUse → Transport → Nat × Transport
  | [], t => (0, t)
  | u :: us, t => ((u.run t).1 + (runAll us (u.run t).2).1, (runAll us (u.run t).2).2)

/-- The calls among the uses are sound, so that each of them allows at least one attempt. -/
def IsSound : TransportUse → Prop
  | call c => c.IsSound
  | _ => True

variable {t : Transport} {before : Nat}

/-- Every use keeps the balance. -/
theorem isBalanced_run {u : TransportUse} (hu : u.IsSound) (h : t.IsBalanced before) :
    (u.run t).2.IsBalanced (before + (u.run t).1) := by
  cases u with
  | call c => exact ServiceCall.isBalanced_perform hu h
  | read b => exact b.isBalanced_read h
  | readChunks b size wanted => exact b.isBalanced_readChunks size wanted h
  | close b => exact b.isBalanced_close h

/-- Uses in a row keep the balance. -/
theorem isBalanced_runAll {us : List TransportUse} (hus : ∀ u ∈ us, u.IsSound)
    (h : t.IsBalanced before) : (runAll us t).2.IsBalanced (before + (runAll us t).1) := by
  induction us generalizing t before with
  | nil => exact h
  | cons u us ih =>
    have hnext := isBalanced_run (hus u List.mem_cons_self) h
    rw [runAll, ← Nat.add_assoc]
    exact ih (fun u hu => hus u (List.mem_cons_of_mem _ hu)) hnext

/-- **Metrics account for every request.** A new transport is used by calls and by readings of live
bodies, whatever its session does. Calls under a negative number of retries are excluded: they count
a request that is never attempted. Afterwards every request that was handed to the session is an
attempt, and each is the first or a further one of its call; the responses and failures that are
counted are the outcomes of these requests; the bytes are those of the bodies that were read at once
or given to a reader, and those that the session got of the bodies that were sent. A further call
that hands nothing to the session changes no counter. -/
theorem metrics_account_for_every_request (config : TransportConfig) (supply : Supply)
    (uses : List TransportUse) (huses : ∀ u ∈ uses, u.IsSound) :
    ∃ given t, runAll uses { config, supply } = (given, t) ∧
      t.metrics.attempts = t.journal.exchanges.length ∧
      t.metrics.attempts = t.metrics.requests + t.metrics.retries ∧
      t.metrics.errorResponses = t.ledger.outcomes.countP (·.isErrorResponse) ∧
      t.metrics.errorResponses + t.metrics.connectionErrors + t.metrics.timeoutErrors ≤
        t.metrics.attempts ∧
      t.metrics.bytesReceived = (t.ledger.outcomes.map (·.bodySize)).sum + given ∧
      t.metrics.bytesSent = (t.journal.exchanges.map (·.sentSize)).sum ∧
      ∀ c : ServiceCall, c.IsSound →
        (c.perform.run t).2.journal.exchanges.length = t.journal.exchanges.length →
          (c.perform.run t).2.metrics = t.metrics := by
  have hnew : Transport.IsBalanced { config, supply } 0 := ⟨rfl, .empty config supply, rfl⟩
  have hend := isBalanced_runAll huses hnew
  rw [Nat.zero_add] at hend
  exact ⟨_, _, rfl, hend.balances.attempts, hend.attempts, hend.balances.errorResponses,
    hend.balances.errors_le, hend.balances.bytesReceived, hend.balances.bytesSent,
    fun c hc hunsent => ServiceCall.metrics_perform_of_unsent hc hend hunsent⟩

/-- A session that first reports an error with a body of three bytes. Later answers have bodies of
two. -/
def recovering : Supply where
  clock := fun _ => .ok ⟨2024, 1, 1, 0, 0, 0, 0, some 0⟩
  share := fun _ => .zero false
  delivery := fun n =>
    if n = 0 then { reply := .response { status := 503, body := [1, 2, 3] } }
    else { reply := .response { body := [4, 5] } }

/-- The buckets are listed with one retry; then an object is asked for, and its body is read. -/
def listThenRead : List TransportUse :=
  let connection : StorageConnection :=
    { credentials := ⟨"id", "secret", none⟩
      endpoint := { url := "http://h", signature := .v2 }
      policy := { maxRetries := 1, jitter := false } }
  [.call (.storage connection .listAllBuckets),
    .call (.storage connection (.get "bucket" "key" none true)),
    .read { exchange := 2, operation := "Get" }]

/-- Three requests were handed over for two calls. One of them was answered by an error, whose body
counts as much as that of the listing and that of the object. -/
theorem listThenRead_is_accounted :
    (∀ u ∈ listThenRead, u.IsSound) ∧
      ∃ t, (runAll listThenRead { config := {}, supply := recovering }).2 = t ∧
        t.metrics.requests = 2 ∧ t.metrics.retries = 1 ∧ t.metrics.attempts = 3 ∧
        t.journal.exchanges.length = 3 ∧ t.metrics.errorResponses = 1 ∧
          t.metrics.bytesReceived = 7 := by
  have hsound : ∀ u ∈ listThenRead, u.IsSound := by
    intro u hu
    simp only [listThenRead, List.mem_cons, List.not_mem_nil, or_false] at hu
    rcases hu with rfl | rfl | rfl
    · exact ⟨by decide, by rintro r p ⟨⟩ ⟨⟩⟩
    · exact ⟨by decide, by rintro r p ⟨⟩ ⟨⟩⟩
    · trivial
  obtain ⟨given, t, hrun, hattempts, hrequests, herrors, -, hreceived, -, -⟩ :=
    metrics_account_for_every_request {} recovering listThenRead hsound
  have hcounted :
      (runAll listThenRead { config := {}, supply := recovering }).2.metrics.requests = 2 ∧
      (runAll listThenRead { config := {}, supply := recovering }).2.metrics.retries = 1 := by
    decide +kernel
  have hanswered : (runAll listThenRead { config := {}, supply := recovering }).1 = 2 ∧
      (runAll listThenRead { config := {}, supply := recovering }).2.ledger.outcomes.countP
        (·.isErrorResponse) = 1 ∧
      ((runAll listThenRead { config := {}, supply := recovering }).2.ledger.outcomes.map
        (·.bodySize)).sum = 5 := by
    decide +kernel
  rw [hrun] at hcounted hanswered
  have hthree : t.metrics.attempts = 3 := by rw [hrequests, hcounted.1, hcounted.2]
  refine ⟨hsound, t, by rw [hrun], hcounted.1, hcounted.2, hthree, by rw [← hattempts, hthree], ?_,
    ?_⟩
  · rw [herrors, hanswered.2.1]
  · rw [hreceived, hanswered.2.2, show given = 2 from hanswered.1]

end TransportUse

end CloudClient
