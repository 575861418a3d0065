import CloudClient.Proofs.Connection.RetrySafety
import CloudClient.Proofs.Factory
import CloudClient.Proofs.Transport.Closed

/-!
# Nothing is sent after shutdown

A factory is used in any order of events: connections are made, calls begin and take their steps one
by one, and the factory is shut down, perhaps many times. Main statement: after the first shutdown
no request is handed to the session any more, whatever happens; every call that waited to send its
request again, and every call that begins later, ends with the fault of a closed transport as soon
as it takes its next steps.
-/

namespace CloudClient

/-! ## Calls that can be made -/

namespace ServiceCall

variable {c : ServiceCall} {q : Request} {supply : Supply}

/-- A call with acceptable arguments: its request is made, it can be signed at every reading of the
clock, and a stream that it stores stands at a place that it can seek. -/
structure IsAcceptable (c : ServiceCall) (supply : Supply) (q : Request) : Prop where
  request : c.request = .ok q
  signed : ∀ n, ∃ x, c.signedAt q (supply.clock n) = .ok x
  position : ∀ p, q.body = .stream p → Stream.isWord p.stream.position = true

/-- The end of a call that a closed transport refuses. -/
def closedEnd (q : Request) : CallEnd := { outcome := .ok (.error (.transportClosed q.operation)) }

/-- What is left of a call ends with that refusal after so many steps on a closed transport. -/
abbrev EndsClosed (supply : Supply) (q : Request) (n : Nat) (rest : Flight CallEnd) : Prop :=
  rest.EndsWithin (Flight.ClosedWith supply) (· = closedEnd q) n

/-- A call executes its request, and then decodes the answer. -/
theorem perform_eq_bind (h : c.request = .ok q) :
    c.perform =
      (Flight.execute c.policy (c.scope q) c.wantsLive (q.signed c.credentials c.endpoint)).bind
      fun a => .done (.ofExecution (c.info q) a) := by
  cases c with
  | storage connection call =>
    rw [perform, StorageConnection.perform, eq_ok_of_mapError h]
    refine congrArg (Flight.bind · _) (funext fun a => ?_)
    cases a <;> rfl
  | queue connection call =>
    have hcall : call.request QueueRequest.defaultVersion = .ok q := h
    rw [perform, QueueConnection.perform, hcall]
    refine congrArg (Flight.bind · _) (funext fun a => ?_)
    cases a <;> rfl

/-- A call that begins on a closed transport is refused at its third step. -/
theorem IsAcceptable.endsClosed (h : c.IsAcceptable supply q) (hpolicy : 0 ≤ c.policy.maxRetries) :
    EndsClosed supply q 3 c.perform := by
  rw [perform_eq_bind h.request]
  refine (Flight.endsWithin_execute h.signed hpolicy _ _).bind fun a ha => ⟨_, rfl, ?_⟩
  rw [ha]
  rfl

/-- A call that waits is refused within three steps after its wait when the transport has been
closed. -/
theorem IsAcceptable.atWaits (h : c.IsAcceptable supply q) (hpolicy : 0 ≤ c.policy.maxRetries) :
    c.perform.AtWaits (EndsClosed supply q 3) (fun _ => True) := by
  have hsound : c.IsSound := by
    refine ⟨hpolicy, fun r p hr hp => ?_⟩
    obtain rfl : q = r := Except.ok.inj (h.request.symm.trans hr)
    exact h.position p hp
  rw [perform_eq_bind h.request]
  refine Flight.AtWaits.bind
    (Flight.AtWaits.imp (Flight.atWaits_execute h.signed (hsound.repeats h.request)
    (fun rest hrest => ?_) _ _) fun _ _ => trivial)
  refine hrest.bind fun a ha => ⟨_, rfl, ?_⟩
  rw [ha]
  rfl

end ServiceCall

/-! ## Factories in use -/

section Shutdown

variable {f : ConnectionFactory}

/-- A factory that is closed stays as it is, and so does its transport. -/
theorem ConnectionFactory.shutdown_of_closed (h : f.isClosed = true) (t : Transport) :
    f.shutdown t = (f, t) :=
  if_pos h

/-- A factory that is open is closed, and its transport with it. -/
theorem ConnectionFactory.shutdown_of_open (h : f.isClosed = false) (t : Transport) :
    f.shutdown t = ({ f with isClosed := true }, t.close) :=
  if_neg (ne_true_of_eq_false h)

/-- A factory that is closed makes no connection, whatever the credentials. -/
theorem ConnectionFactory.checkCredentials_of_closed (h : f.isClosed = true) (service : String)
    (c : Credentials) : f.checkCredentials service c = .error (.factoryClosed service) :=
  if_pos h

end Shutdown

/-- A call that has begun, with what is left of it and the number of steps that it has taken. -/
structure RunningCall where
  call : ServiceCall
  rest : Flight CallEnd
  steps : Nat := 0

/-- A call waits to send its request again. -/
def RunningCall.isWaiting (r : RunningCall) : Bool :=
  match r.rest with
  | .pause .. => true
  | _ => false

/-- A call ends with the refusal of a closed transport, and has ended when it has taken so many
steps. -/
structure RunningCall.IsRefused (r : RunningCall) (q : Request) (n : Nat) : Prop where
  ended : ∀ a, r.rest = .done a → a = ServiceCall.closedEnd q
  atLast : n ≤ r.steps → r.rest = .done (ServiceCall.closedEnd q)

/-- A call that ends so within the steps that it has still to take. -/
theorem RunningCall.isRefused {r : RunningCall} {supply : Supply} {q : Request} {n : Nat}
    {t : Transport} (ht : Flight.ClosedWith supply t)
    (h : ServiceCall.EndsClosed supply q (n - r.steps) r.rest) : r.IsRefused q n where
  ended a ha := by
    rw [ha] at h
    exact Flight.EndsWithin.of_done (Q := (· = ServiceCall.closedEnd q)) ht h
  atLast hn := by
    rw [Nat.sub_eq_zero_of_le hn] at h
    obtain ⟨a, ha, rfl⟩ := h
    exact ha

/-- A factory with its transport, the connections that it has made, and the calls that have begun on
them. -/
structure FactoryInUse where
  factory : ConnectionFactory
  transport : Transport
  storage : List StorageConnection := []
  queue : List QueueConnection := []
  calls : List RunningCall := []

/-- What can happen to a factory. Connections and calls are named by their places. -/
inductive FactoryEvent where
  | connectStorage (c : Credentials)
  | connectQueue (c : Credentials)
  | beginStorage (place : Nat) (call : StorageCall)
  | beginQueue (place : Nat) (call : QueueCall)
  /-- A call takes its next step. -/
  | advance (place : Nat)
  | shutdown

namespace FactoryInUse

/-- A new factory, over what will come from outside. -/
def new (f : ConnectionFactory) (supply : Supply) : FactoryInUse :=
  { factory := f, transport := f.transport supply }

/-- A call begins. -/
def begin (s : FactoryInUse) (c : ServiceCall) : FactoryInUse :=
  { s with calls := s.calls ++ [{ call := c, rest := c.perform }] }

/-- A call takes a step. -/
def advance (s : FactoryInUse) (place : Nat) (r : RunningCall) : FactoryInUse :=
  { s with
    transport := (r.rest.step s.transport).2
    calls :=
      s.calls.set place { r with rest := (r.rest.step s.transport).1, steps := r.steps + 1 } }

/-- The factory after an event. What is asked of a connection or a call that does not exist does not
happen. -/
def step (s : FactoryInUse) : FactoryEvent → FactoryInUse
  | .connectStorage c =>
    match s.factory.storageConnection c with
    | .ok connection => { s with storage := s.storage ++ [connection] }
    | .error _ => s
  | .connectQueue c =>
    match s.factory.queueConnection c with
    | .ok connection => { s with queue := s.queue ++ [connection] }
    | .error _ => s
  | .beginStorage place call =>
    match s.storage[place]? with
    | some connection => s.begin (.storage connection call)
    | none => s
  | .beginQueue place call =>
    match s.queue[place]? with
    | some connection => s.begin (.queue connection call)
    | none => s
  | .advance place =>
    match s.calls[place]? with
    | some r => s.advance place r
    | none => s
  | .shutdown =>
    { s with
      factory := (s.factory.shutdown s.transport).1
      transport := (s.factory.shutdown s.transport).2 }

/-- The factory after events in a row. -/
def run (s : FactoryInUse) (events : List FactoryEvent) : FactoryInUse := events.foldl step s

/-- What an event keeps, events in a row keep. -/
theorem run_induction {P : FactoryInUse → Prop} (hstep : ∀ s e, P s → P (s.step e))
    {s : FactoryInUse} (h : P s) (events : List FactoryEvent) : P (s.run events) := by
  induction events generalizing s with
  | nil => exact h
  | cons e events ih => exact ih (hstep s e h)

/-- A call can be made on a connection that exists. -/
def Offers (s : FactoryInUse) : ServiceCall → Prop
  | .storage connection _ => connection ∈ s.storage
  | .queue connection _ => connection ∈ s.queue

/-- What an event changes. -/
inductive Change (s : FactoryInUse) : FactoryInUse → Prop
  | nothing : Change s s
  | storage (c : Credentials) (x : StorageConnection) (h : s.factory.storageConnection c = .ok x) :
    Change s { s with storage := s.storage ++ [x] }
  | queue (c : Credentials) (x : QueueConnection) (h : s.factory.queueConnection c = .ok x) :
    Change s { s with queue := s.queue ++ [x] }
  | begin (c : ServiceCall) (h : s.Offers c) : Change s (s.begin c)
  | advance (place : Nat) (r : RunningCall) (h : s.calls[place]? = some r) :
    Change s (s.advance place r)
  | shutdown : Change s { s with
      factory := (s.factory.shutdown s.transport).1
      transport := (s.factory.shutdown s.transport).2 }

/-- Nothing else is changed by an event. -/
theorem change_step (s : FactoryInUse) (e : FactoryEvent) : Change s (s.step e) := by
  cases e with
  | connectStorage c =>
    cases h : s.factory.storageConnection c with
    | ok x =>
      rw [step, h]
      exact .storage c x h
    | error f =>
      rw [step, h]
      exact .nothing
  | connectQueue c =>
    cases h : s.factory.queueConnection c with
    | ok x =>
      rw [step, h]
      exact .queue c x h
    | error f =>
      rw [step, h]
      exact .nothing
  | beginStorage place call =>
    cases h : s.storage[place]? with
    | some x =>
      rw [step, h]
      exact .begin _ (List.mem_of_getElem? h)
    | none =>
      rw [step, h]
      exact .nothing
  | beginQueue place call =>
    cases h : s.queue[place]? with
    | some x =>
      rw [step, h]
      exact .begin _ (List.mem_of_getElem? h)
    | none =>
      rw [step, h]
      exact .nothing
  | advance place =>
    cases h : s.calls[place]? with
    | some r =>
      rw [step, h]
      exact .advance place r h
    | none =>
      rw [step, h]
      exact .nothing
  | shutdown => exact .shutdown

/-! ## At any time -/

/-- What holds of a factory at any time: it is closed when its transport is, its connections have
the policy of its configuration, and what is left of a call that waits would be refused by a closed
transport. -/
structure Sound (policy : RetryPolicy) (supply : Supply) (s : FactoryInUse) : Prop where
  config : RetryPolicy.ofConfig s.factory.config.retry = policy
  closed : s.factory.isClosed = s.transport.isClosed
  supplied : s.transport.supply = supply
  storage : ∀ x ∈ s.storage, x.policy = policy
  queue : ∀ x ∈ s.queue, x.policy = policy
  waits : ∀ r ∈ s.calls, ∀ q, r.call.IsAcceptable supply q →
    r.rest.AtWaits (ServiceCall.EndsClosed supply q 3) (fun _ => True)

variable {policy : RetryPolicy} {supply : Supply} {s : FactoryInUse}

/-- A new factory is sound. -/
theorem sound_new (c : Config) (supply : Supply) :
    Sound (.ofConfig c.retry) supply (new { config := c } supply) where
  config := rfl
  closed := rfl
  supplied := rfl
  storage := by rintro x ⟨⟩
  queue := by rintro x ⟨⟩
  waits := by rintro r ⟨⟩

/-- The policy of a call is that of its connection. -/
theorem Sound.policy_of_offers (h : Sound policy supply s) {c : ServiceCall} (hc : s.Offers c) :
    c.policy = policy := by
  cases c with
  | storage x call => exact h.storage x hc
  | queue x call => exact h.queue x hc

/-- Every event keeps a factory sound. -/
theorem Sound.step (hpolicy : 0 ≤ policy.maxRetries) (h : Sound policy supply s)
    (e : FactoryEvent) : Sound policy supply (s.step e) := by
  generalize hs' : s.step e = s'
  have hchange := change_step s e
  rw [hs'] at hchange
  cases hchange with
  | nothing => exact h
  | storage c x hx =>
    obtain ⟨_, -, hmade⟩ := exists_of_bind_eq_ok hx
    cases hmade
    exact { h with
      storage := List.forall_mem_append.2 ⟨h.storage, List.forall_mem_singleton.2 h.config⟩ }
  | queue c x hx =>
    obtain ⟨_, -, hmade⟩ := exists_of_bind_eq_ok hx
    cases hmade
    exact { h with
      queue := List.forall_mem_append.2 ⟨h.queue, List.forall_mem_singleton.2 h.config⟩ }
  | begin c hc =>
    have hallowed : 0 ≤ c.policy.maxRetries := by
      rw [h.policy_of_offers hc]
      exact hpolicy
    refine { h with
      waits := List.forall_mem_append.2 ⟨h.waits, List.forall_mem_singleton.2 fun q hq => ?_⟩ }
    exact hq.atWaits hallowed
  | advance place r hr =>
    obtain ⟨hclosed, hsupply⟩ := Flight.kept_step r.rest s.transport
    refine { h with
      closed := h.closed.trans hclosed.symm
      supplied := hsupply.trans h.supplied
      waits := fun r' hr' q hq => ?_ }
    rcases List.mem_or_eq_of_mem_set hr' with hr' | rfl
    · exact h.waits r' hr' q hq
    · exact (h.waits r (List.mem_of_getElem? hr) q hq).step s.transport
  | shutdown =>
    cases hopen : s.factory.isClosed with
    | true =>
      rw [ConnectionFactory.shutdown_of_closed hopen]
      exact h
    | false =>
      rw [ConnectionFactory.shutdown_of_open hopen]
      exact { h with
        closed := rfl
        supplied := (congrArg Ledger.supply s.transport.ledger_close).trans h.supplied }

/-! ## After shutdown -/

/-- The requests that were handed to the session so far. -/
def requests (s : FactoryInUse) : List SignedRequest :=
  s.transport.journal.exchanges.map (·.request)

/-- The calls after one of them has taken a step. -/
theorem getElem?_advance {place : Nat} {r : RunningCall} (hr : s.calls[place]? = some r) (i : Nat) :
    (s.advance place r).calls[i]? =
      if place = i then
        some { r with rest := (r.rest.step s.transport).1, steps := r.steps + 1 }
      else s.calls[i]? := by
  rw [advance, List.getElem?_set]
  split
  · obtain ⟨hplace, -⟩ := List.getElem?_eq_some_iff.1 hr
    rw [if_pos hplace]
  · rfl

/-- What holds of a factory after it has been shut down, seen from the time of the shutdown. -/
structure Over (policy : RetryPolicy) (supply : Supply) (s z : FactoryInUse) : Prop where
  sound : Sound policy supply z
  closed : z.factory.isClosed = true
  requests : z.requests = s.requests
  kept : ∀ (i : Nat) (r : RunningCall), s.calls[i]? = some r → ∃ r' : RunningCall,
    z.calls[i]? = some r' ∧ r'.call = r.call ∧
      (r.isWaiting = true → ∀ q, r.call.IsAcceptable supply q →
        ServiceCall.EndsClosed supply q (r.steps + 4 - r'.steps) r'.rest)
  begun : ∀ (i : Nat) (r : RunningCall), z.calls[i]? = some r → s.calls.length ≤ i →
    ∀ q, r.call.IsAcceptable supply q → ServiceCall.EndsClosed supply q (3 - r.steps) r.rest

/-- The transport of a sound factory that is closed. -/
theorem Sound.closedWith (h : Sound policy supply s) (hclosed : s.factory.isClosed = true) :
    Flight.ClosedWith supply s.transport :=
  ⟨h.closed ▸ hclosed, h.supplied⟩

/-- A call that waits would be refused at its fourth step if the transport were closed. -/
theorem Sound.endsClosed_of_isWaiting (h : Sound policy supply s) {r : RunningCall}
    (hr : r ∈ s.calls) (hwaiting : r.isWaiting = true) {q : Request}
    (hq : r.call.IsAcceptable supply q) : ServiceCall.EndsClosed supply q 4 r.rest := by
  have hwaits := h.waits r hr q hq
  obtain ⟨call, rest, steps⟩ := r
  cases rest with
  | pause seconds next => exact fun _ _ => hwaits.1
  | _ => cases hwaiting

/-- Shutting a factory down begins that time. -/
theorem Sound.over (hpolicy : 0 ≤ policy.maxRetries) (h : Sound policy supply s) :
    Over policy supply s (s.step .shutdown) where
  sound := h.step hpolicy .shutdown
  closed := by
    show (s.factory.shutdown s.transport).1.isClosed = true
    cases hopen : s.factory.isClosed with
    | true => rw [ConnectionFactory.shutdown_of_closed hopen, hopen]
    | false => rw [ConnectionFactory.shutdown_of_open hopen]
  requests := by
    show (s.factory.shutdown s.transport).2.journal.exchanges.map (·.request) = _
    cases hopen : s.factory.isClosed with
    | true =>
      rw [ConnectionFactory.shutdown_of_closed hopen]
      rfl
    | false =>
      rw [ConnectionFactory.shutdown_of_open hopen]
      exact congrArg (·.exchanges.map (·.request)) s.transport.ledger_close
  kept i r hr := by
    refine ⟨r, hr, rfl, fun hwaiting q hq => ?_⟩
    rw [Nat.add_sub_cancel_left]
    exact h.endsClosed_of_isWaiting (List.mem_of_getElem? hr) hwaiting hq
  begun i r hr hi := by
    obtain ⟨hlt, -⟩ := List.getElem?_eq_some_iff.1 hr
    exact absurd hlt (Nat.not_lt.2 hi)

variable {z : FactoryInUse}

/-- **Every event leaves a factory shut down.** -/
theorem Over.step (hpolicy : 0 ≤ policy.maxRetries) (h : Over policy supply s z)
    (e : FactoryEvent) : Over policy supply s (z.step e) := by
  have hsound := h.sound.step hpolicy e
  generalize hz' : z.step e = z' at hsound
  have hchange := change_step z e
  rw [hz'] at hchange
  cases hchange with
  | nothing => exact h
  | storage c x hx => exact { h with sound := hsound }
  | queue c x hx => exact { h with sound := hsound }
  | begin c hc =>
    have hallowed : 0 ≤ c.policy.maxRetries := by
      rw [h.sound.policy_of_offers hc]
      exact hpolicy
    refine { h with sound := hsound, kept := fun i r hr => ?_, begun := ?_ }
    · obtain ⟨r', hr', hrest⟩ := h.kept i r hr
      obtain ⟨hlt, -⟩ := List.getElem?_eq_some_iff.1 hr'
      exact ⟨r', (List.getElem?_append_left hlt).trans hr', hrest⟩
    · exact forall_getElem?_concat h.begun fun _ q hq => hq.endsClosed hallowed
  | advance place r hr =>
    -- The step is one on a closed transport, of a call that waited, of one that began later, or of
    -- another.
    have hclosed := h.sound.closedWith h.closed
    refine { h with
      sound := hsound
      requests := (Flight.requests_step r.rest z.transport hclosed.1).trans h.requests
      kept := fun i r₀ hr₀ => ?_
      begun := fun i r' hr' hi q hq => ?_ }
    · obtain ⟨r', hr', hcall, hrest⟩ := h.kept i r₀ hr₀
      by_cases hplace : place = i
      · subst hplace
        obtain rfl : r = r' := Option.some.inj (hr.symm.trans hr')
        refine ⟨_, (getElem?_advance hr place).trans (if_pos rfl), hcall, fun hwaiting q hq => ?_⟩
        exact (hrest hwaiting q hq).step hclosed
      · exact ⟨r', (getElem?_advance hr i).trans ((if_neg hplace).trans hr'), hcall, hrest⟩
    · rw [getElem?_advance hr] at hr'
      split at hr'
      · rename_i hplace
        cases hr'
        subst hplace
        exact (h.begun place r hr hi q hq).step hclosed
      · exact h.begun i r' hr' hi q hq
  | shutdown =>
    rw [ConnectionFactory.shutdown_of_closed h.closed]
    exact h

/-- **Nothing is sent after shutdown.** A factory that was made of a configuration is used in any
way, shut down, and used in any way again. No request is handed to the session after the shutdown.
The factory and its transport stay closed, no connection is made any more, and another shutdown
changes nothing. A call that waited to send its request again is refused at its fourth step at the
latest, and one that begins afterwards at its third: they end with the fault of the closed transport
as it is. -/
theorem nothing_is_sent_after_shutdown (c : Config) (f : ConnectionFactory)
    (hf : ConnectionFactory.make c = .ok f) (supply : Supply) (before later : List FactoryEvent) :
    let s := (new f supply).run before
    let z := (s.step .shutdown).run later
    z.requests = s.requests ∧ z.factory.isClosed = true ∧ z.transport.isClosed = true ∧
      (∀ credentials, z.factory.storageConnection credentials = .error (.factoryClosed "s3") ∧
        z.factory.queueConnection credentials = .error (.factoryClosed "sqs")) ∧
      z.step .shutdown = z ∧
      (∀ (i : Nat) (r : RunningCall), s.calls[i]? = some r → r.isWaiting = true →
        ∀ q, r.call.IsAcceptable supply q →
          ∃ r' : RunningCall, z.calls[i]? = some r' ∧ r'.call = r.call ∧
            r'.IsRefused q (r.steps + 4)) ∧
      ∀ (i : Nat) (r : RunningCall), z.calls[i]? = some r → s.calls.length ≤ i →
        ∀ q, r.call.IsAcceptable supply q → r.IsRefused q 3 := by
  intro s z
  obtain ⟨hvalid, rfl⟩ := ConnectionFactory.of_make hf
  -- A call that allows no attempt would end otherwise, but its policy is that of a valid
  -- configuration.
  have hpolicy : 0 ≤ (RetryPolicy.ofConfig c.retry).maxRetries :=
    Config.maxRetries_of_validate hvalid
  have hsound : Sound (.ofConfig c.retry) supply s :=
    run_induction (fun s e h => h.step hpolicy e) (sound_new c supply) before
  have hover : Over (.ofConfig c.retry) supply s z :=
    run_induction (fun z e h => h.step hpolicy e) (hsound.over hpolicy) later
  have hclosed := hover.sound.closedWith hover.closed
  refine ⟨hover.requests, hover.closed, hclosed.1, fun credentials => ⟨?_, ?_⟩, ?_, ?_, ?_⟩
  · rw [ConnectionFactory.storageConnection,
      ConnectionFactory.checkCredentials_of_closed hover.closed]
    rfl
  · rw [ConnectionFactory.queueConnection,
      ConnectionFactory.checkCredentials_of_closed hover.closed]
    rfl
  · rw [step, ConnectionFactory.shutdown_of_closed hover.closed]
  · intro i r hr hwaiting q hq
    obtain ⟨r', hr', hcall, hrest⟩ := hover.kept i r hr
    exact ⟨r', hr', hcall, RunningCall.isRefused hclosed (hrest hwaiting q hq)⟩
  · intro i r hr hi q hq
    exact RunningCall.isRefused hclosed (hover.begun i r hr hi q hq)

/-- A configuration with plain endpoints that allows one retry. -/
def plainConfig : Config where
  storage := { url := "http://h", signature := .v2 }
  queue := { url := "http://h", service := "sqs", signature := .v2 }
  retry := { maxRetries := 1, jitter := false }

/-- The buckets are listed on a connection of that configuration. -/
def listing : ServiceCall :=
  .storage
    { credentials := ⟨"id", "secret", none⟩
      endpoint := plainConfig.storage
      policy := .ofConfig plainConfig.retry }
    .listAllBuckets

/-- The buckets are listed until the call waits because no answer came in time. -/
def untilWait : List FactoryEvent :=
  [.connectStorage ⟨"id", "secret", none⟩, .beginStorage 0 .listAllBuckets, .advance 0, .advance 0,
    .advance 0, .advance 0, .advance 0]

/-- The call goes on, and another one begins. -/
def afterWait : List FactoryEvent :=
  [.advance 0, .advance 0, .advance 0, .advance 0, .beginStorage 0 .listAllBuckets, .advance 1,
    .advance 1, .advance 1]

/-- A factory on which a call waits. -/
def listingWaits : FactoryInUse :=
  (new { config := plainConfig } ServiceCall.silent.supply).run untilWait

/-- The factory after it was shut down meanwhile. -/
def listingRefused : FactoryInUse := (listingWaits.step .shutdown).run afterWait

/-- Both calls are refused, and the one request that was sent is the one before the shutdown. -/
theorem listingRefused_is_refused :
    ConnectionFactory.make plainConfig = .ok { config := plainConfig } ∧
      (listingRefused.calls[0]?.map (·.rest)) =
        some (.done (ServiceCall.closedEnd StorageRequest.listAllBuckets)) ∧
      (listingRefused.calls[1]?.map (·.rest)) =
        some (.done (ServiceCall.closedEnd StorageRequest.listAllBuckets)) ∧
      listingRefused.requests.length = 1 := by
  have hf : ConnectionFactory.make plainConfig = .ok { config := plainConfig } := rfl
  obtain ⟨hrequests, -, -, -, -, hwaiting, hbegun⟩ :=
    nothing_is_sent_after_shutdown plainConfig _ hf
    ServiceCall.silent.supply untilWait afterWait
  have hlisting : listing.IsAcceptable ServiceCall.silent.supply StorageRequest.listAllBuckets :=
    ⟨rfl, fun _ => ⟨_, rfl⟩, by rintro p ⟨⟩⟩
  refine ⟨hf, ?_, ?_, ?_⟩
  · obtain ⟨r, hr⟩ : ∃ r, listingWaits.calls[0]? = some r := ⟨_, rfl⟩
    have hbefore : listingWaits.calls[0]?.map (fun r => (r.isWaiting, r.steps)) =
        some (true, 5) := by
      decide +kernel
    have hafter : listingRefused.calls[0]?.map (·.steps) = some 9 := by decide +kernel
    rw [hr] at hbefore
    obtain ⟨hpausing, hsteps⟩ := Prod.mk.inj (Option.some.inj hbefore)
    have hcall : listingWaits.calls[0]?.map (·.call) = some listing := rfl
    rw [hr] at hcall
    obtain ⟨r', hfound, -, hrefused⟩ :=
      hwaiting 0 r hr hpausing _ ((Option.some.inj hcall).symm ▸ hlisting)
    have hr' : listingRefused.calls[0]? = some r' := hfound
    rw [hr'] at hafter ⊢
    rw [hsteps] at hrefused
    exact congrArg some (hrefused.atLast (Nat.le_of_eq (Option.some.inj hafter).symm))
  · obtain ⟨r, hr⟩ : ∃ r, listingRefused.calls[1]? = some r := ⟨_, rfl⟩
    have hafter : listingRefused.calls[1]?.map (·.steps) = some 3 := by decide +kernel
    have hbegan : listingWaits.calls.length = 1 := by decide +kernel
    have hcall : listingRefused.calls[1]?.map (·.call) = some listing := rfl
    rw [hr] at hcall
    have hrefused := hbegun 1 r hr (Nat.le_of_eq hbegan) _ ((Option.some.inj hcall).symm ▸ hlisting)
    rw [hr] at hafter ⊢
    exact congrArg some (hrefused.atLast (Nat.le_of_eq (Option.some.inj hafter).symm))
  · have hsent : listingWaits.requests.length = 1 := by decide +kernel
    exact (congrArg List.length hrequests).trans hsent

end FactoryInUse

end CloudClient
