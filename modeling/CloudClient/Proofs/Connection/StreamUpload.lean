import CloudClient.Proofs.Request.StreamPart
import CloudClient.Proofs.Signature.Signed
import CloudClient.Proofs.Transport.Sending

/-!
# Streams are stored from one place

A call that stores a stream is followed over all its attempts. The session may take any number of
chunks before an attempt fails, and leaves the stream where it stopped. Main statement: every
attempt hands over the same bytes, from the place where the stream stood when the call was made, and
announces how many they are.
-/

namespace CloudClient

namespace StorageRequest

/-- An object that is stored from a stream that moves. -/
theorem isWhole_of_put {bucket key contentType : String} {s : Stream} (hs : s.kind = .seekable)
    {size : Option SizeHint} {metadata : Dict String} {r : Request}
    (h : (put bucket key (.stream s) contentType size metadata).1 = .ok r) :
    r.method = .put ∧ r.form = none ∧
      ∃ p, r.body = .stream p ∧ p.IsWhole ∧ p.stream = s ∧ p.length = storedLength s size := by
  obtain ⟨hbody, -, hmethod, hform⟩ := body_of_put h
  obtain ⟨p, hp, hpart⟩ := exists_part_of_payloadBody hbody
  have hdescribes := describes_of_streamPart hp
  exact ⟨hmethod, hform, p, hpart, hdescribes.isWhole hs, hdescribes.stream, hdescribes.length⟩

end StorageRequest

/-! ## Attempts -/

/-- A request that stores a part: it announces the length of the part, and the session gets of it
what it takes. -/
structure Exchange.Carries (x : Exchange) (p : StreamPart) (chunkSize : Nat) (d : Delivery) :
    Prop where
  length : x.request.headers.get? "Content-Length" = some (toString p.length)
  cargo : p.SentBy chunkSize d x.cargo

namespace Flight

variable {p : StreamPart} {t : Transport}

/-- Every exchange of a call that stores a part carries the part, with the delivery of its turn. -/
def AllCarry (p : StreamPart) (t : Transport) (xs : List Exchange) : Prop :=
  ∀ (i : Nat) (x : Exchange), xs[i]? = some x →
    x.Carries p t.config.chunkSize.toNat (t.supply.delivery (t.delivered + i))

/-- What holds of a call that stores a part before an attempt: its stream is at hand, at the start
of the part before the first attempt and anywhere before others, and what was sent carries the part.
-/
structure Storing (p : StreamPart) (t : Transport) (n : Nat) (b : Body)
    (books : Ledger) : Prop where
  body : ∃ s, p.stream.SameBut s ∧ b = .stream { p with stream := s }
  fresh : n = 0 → b = .stream p
  sent : ∃ readings xs, books = after t readings xs.length xs ∧ AllCarry p t xs

/-- The request was signed from one that stores a part. -/
structure StoresPart (p : StreamPart) (q : SignedRequest) : Prop where
  body : q.body = .stream p
  length : q.headers.get? "Content-Length" = some (toString p.length)

/-- A request that is sent with its stream at the start of the part carries the part. -/
theorem Storing.send {n : Nat} {t' : Transport} (hp : p.IsWhole) (hchunk : 1 ≤ t.config.chunkSize)
    {readings : Nat} {xs : List Exchange} (hbooks : t'.ledger = after t readings xs.length xs)
    (hxs : AllCarry p t xs) {q : SignedRequest} (hq : StoresPart p q) (live : Bool) :
    ∃ a b t'', onTransport.run (Flight.send q live) (.stream p, t') = (a, b, t'') ∧
      Storing p t (n + 1) b t''.ledger := by
  have hconfig : t'.config = t.config := congrArg Ledger.config hbooks
  have hsupply : t'.supply = t.supply := congrArg Ledger.supply hbooks
  have hdelivered : t'.delivered = t.delivered + xs.length := congrArg Ledger.delivered hbooks
  have hexchanges : t'.journal.exchanges = t.journal.exchanges ++ xs :=
    congrArg Ledger.exchanges hbooks
  cases hclosed : t'.isClosed with
  | true =>
    obtain ⟨a, hrun⟩ := run_send_of_closed hclosed q live (.stream p)
    exact ⟨a, _, _, hrun, ⟨p.stream, ⟨p.stream.position, rfl⟩, rfl⟩, by omega, readings, xs,
      hbooks, hxs⟩
  | false =>
    obtain ⟨x, t'', a, hrun, hx, hcargo, -, hledger, -⟩ := run_send hclosed q live (.stream p)
    rw [hconfig, hsupply, hdelivered] at hcargo
    have hhanded := hp.handOver (by omega : 0 < t.config.chunkSize.toNat)
      (t.supply.delivery (t.delivered + xs.length))
    obtain ⟨hsent, hshort, s, hs, hb⟩ := hhanded
    refine ⟨a, _, t'', hrun, ⟨s, hs, ?_⟩, by omega, readings, xs ++ [x], ?_, ?_⟩
    · rw [hconfig, hsupply, hdelivered]
      exact hb
    · -- No byte is missing, so that the request has used a delivery.
      have hcounted : (t'.outcomeAt live t'.delivered x).isShort = false := by
        rw [Transport.outcomeAt, SendOutcome.isShort_ofDelivery, hx, hconfig, hsupply, hdelivered]
        show Option.isSome ((Body.stream p).handOver _ _).shortage = false
        rw [hshort]
        rfl
      rw [hledger, hcounted, hbooks, hdelivered, hexchanges, after, after, List.append_assoc,
        List.length_append]
      rfl
    · refine forall_getElem?_concat hxs ⟨?_, ?_⟩
      · rw [hx]
        exact hq.length
      · rw [hcargo]
        exact hsent

variable {request : Request} {credentials : Credentials} {endpoint : Endpoint}

/-- Every attempt of a call that stores a part carries the part, or is not made. -/
theorem Storing.attempt {n : Nat} {b : Body} {t' : Transport} (hp : p.IsWhole)
    (hchunk : 1 ≤ t.config.chunkSize) (h : Storing p t n b t'.ledger) {first : SignedRequest}
    (hfirst : StoresPart p first)
    (hsigned : ∀ reading q, signedAt request credentials endpoint reading = .ok q → StoresPart p q)
    (live : Bool) (scope : Dict Json) :
    ∃ a b' t'', onTransport.run
        ((attemptActions first (request.signed credentials endpoint) live scope).attempt n)
        (b, t') = (a, b', t'') ∧
      Storing p t (n + 1) b' t''.ledger := by
  obtain ⟨readings, xs, hbooks, hxs⟩ := h.sent
  cases n with
  | zero =>
    obtain rfl := h.fresh rfl
    exact Storing.send hp hchunk hbooks hxs hfirst live
  | succ n =>
    obtain ⟨s, hs, rfl⟩ := h.body
    have hsign := run_signed request credentials endpoint t'
    have hread : ((request.signed credentials endpoint).run t').2.ledger =
        after t (readings + 1) xs.length xs := by
      rw [hsign, Transport.ledger_readClock, hbooks]
      show { after t readings xs.length xs with readings := t'.readings + 1 } = _
      rw [show t'.readings = t.readings + readings from congrArg Ledger.readings hbooks]
      rfl
    by_cases hsent : ∃ q b', ((request.signed credentials endpoint).run t').1 = .ok q ∧
        (q.body.resume (.stream { p with stream := s })).rewind = .ok b'
    · obtain ⟨q, b', hq, hrewind⟩ := hsent
      have hstores : StoresPart p q := by
        rw [hsign] at hq
        exact hsigned _ _ hq
      -- Wherever the stream was left, it goes back to the start of the part.
      obtain rfl : b' = .stream p := by
        rw [hstores.body] at hrewind
        exact hp.eq_of_rewind hs hrewind
      have hcounted : (((request.signed credentials endpoint).run t').2.count
          (·.countRetry)).ledger = after t (readings + 1) xs.length xs := by
        rw [Transport.ledger_count, hread]
      obtain ⟨a, b'', t'', hrun, hnext⟩ :=
        Storing.send (n := n + 1) hp hchunk hcounted hxs hstores live
      exact ⟨a, b'', t'', (run_sendAgain hq hrewind live).trans hrun, hnext⟩
    · obtain ⟨a, t'', hrun, hledger⟩ := run_sendAgain_of_refused
        (fun q b' hq hrewind => hsent ⟨q, b', hq, hrewind⟩) live
      exact ⟨a, _, t'', hrun, ⟨s, hs, rfl⟩, by omega, readings + 1, xs, hledger.trans hread, hxs⟩

/-- **Every request of a call that stores a part carries the part.** -/
theorem exchanges_execute (hp : p.IsWhole) (hchunk : 1 ≤ t.config.chunkSize)
    (hsigned : ∀ reading q, signedAt request credentials endpoint reading = .ok q → StoresPart p q)
    (policy : RetryPolicy) (scope : Dict Json) (live : Bool) :
    ∃ xs, ((execute policy scope live
        (request.signed credentials endpoint)).run t).2.journal.exchanges =
        t.journal.exchanges ++ xs ∧
      AllCarry p t xs := by
  cases hfirst : signedAt request credentials endpoint (t.supply.clock t.readings) with
  | error e =>
    refine ⟨[], ?_, ?_⟩
    · rw [run_execute_of_unsigned policy hfirst, List.append_nil]
      rfl
    · intro i x hx
      cases hx
  | ok first =>
    obtain ⟨scope', t₀, ht₀, hrun⟩ := run_execute_eq policy hfirst scope live
    have hstores : StoresPart p first := hsigned _ _ hfirst
    have hstart : Storing p t 0 first.body t₀.ledger := by
      rw [hstores.body]
      refine ⟨⟨p.stream, ⟨p.stream.position, rfl⟩, rfl⟩, fun _ => rfl, 1, [], ht₀, ?_⟩
      intro i x hx
      cases hx
    obtain ⟨k, -, hend⟩ := RetryRules.Kept.run (r := sendingRules policy first)
      (kept_of_attempt fun n b t' h => h.attempt hp hchunk hstores hsigned live scope')
      (s := (first.body, t₀)) hstart
    obtain ⟨readings, xs, hbooks, hxs⟩ := hend.sent
    refine ⟨xs, ?_, hxs⟩
    rw [hrun]
    exact congrArg Ledger.exchanges hbooks

end Flight

/-! ## Calls -/

namespace StorageConnection

/-- **Every attempt of an upload sends the same bytes.** A stream that moves is stored with any hint
of its size that the call accepts, under any policy, whatever the session does and takes of a
request before it fails. Each request announces the number of bytes that are stored; its chunks have
a proper size, are a beginning of these bytes, and are all of them when the session reads the body
to its end. -/
theorem perform_put_sends_same_bytes (c : StorageConnection) (bucket key contentType : String)
    (s : Stream) (hs : s.kind = .seekable) (size : Option SizeHint) (metadata : Dict String)
    (r : Request)
    (hr : (StorageCall.put bucket key (.stream s) contentType size metadata).request
      (some c.endpoint.region) = .ok r) (t : Transport) (hchunk : 1 ≤ t.config.chunkSize) :
    ∃ bytes, bytes = (s.content.drop s.position).take (StorageRequest.storedLength s size).toNat ∧
      (bytes.length : Int) = StorageRequest.storedLength s size ∧
      ∃ xs, ((c.perform (.put bucket key (.stream s) contentType size metadata)).run
          t).2.journal.exchanges = t.journal.exchanges ++ xs ∧
        ∀ i x, xs[i]? = some x →
          x.request.headers.get? "Content-Length" =
            some (toString (StorageRequest.storedLength s size)) ∧
          ∃ chunks, x.cargo = .chunks chunks ∧
            (∀ chunk ∈ chunks, chunk ≠ [] ∧ (chunk.length : Int) ≤ t.config.chunkSize) ∧
            chunks.flatten <+: bytes ∧
            ((t.supply.delivery (t.delivered + i)).ReadsToEnd chunks → chunks.flatten = bytes) := by
  obtain ⟨hmethod, hform, p, hbody, hp, rfl, hlength⟩ := StorageRequest.isWhole_of_put hs hr
  have hsigned : ∀ reading q, Flight.signedAt r c.credentials c.endpoint reading = .ok q →
      Flight.StoresPart p q := by
    intro reading q hq
    cases reading with
    | error e => cases hq
    | ok time =>
      have hsent : q.body = .stream p := (Signer.body_of_sign hq hform).trans hbody
      refine ⟨hsent, ?_⟩
      rw [Signer.get?_length_of_sign hq hmethod, hsent]
      rfl
  let call := StorageCall.put bucket key (.stream p.stream) contentType size metadata
  obtain ⟨xs, hexchanges, hxs⟩ :=
    Flight.exchanges_execute hp hchunk hsigned c.policy call.scope call.wantsLive
  have hperform : ((c.perform call).run t).2 =
      ((Flight.execute c.policy call.scope call.wantsLive
        (r.signed c.credentials c.endpoint)).run t).2 := by
    rw [perform, show call.request (some c.endpoint.region) = .ok r from hr]
    dsimp only
    rw [Flight.run_then]
    split <;> rfl
  refine ⟨p.bytes, ?_, ?_, xs, ?_, ?_⟩
  · rw [StreamPart.bytes, hlength]
    rfl
  · rw [hp.length_bytes, hlength]
  · rw [hperform]
    exact hexchanges
  · intro i x hx
    obtain ⟨hannounced, chunks, hcargo, hchunks, hbeginning, hall⟩ := hxs i x hx
    refine ⟨by rw [hannounced, hlength], chunks, hcargo, ?_, hbeginning, hall⟩
    intro chunk hmem
    have hsize := hchunks chunk hmem
    exact ⟨hsize.1, by omega⟩

/-- A transport that sends chunks of two bytes. Its session takes one chunk of the first request,
and then does not answer in time. -/
def interrupted : Transport where
  config := { chunkSize := 2 }
  supply :=
    { clock := fun _ => .ok ⟨2024, 1, 1, 0, 0, 0, 0, some 0⟩
      share := fun _ => .zero false
      delivery := fun n => if n = 0 then { pulls := some 1, reply := .failure .timeout } else {} }

/-- A connection to a plain endpoint, with one retry. -/
def retryingOnce : StorageConnection where
  credentials := ⟨"id", "secret", none⟩
  endpoint := { url := "http://h", signature := .v2 }
  policy := { maxRetries := 1, jitter := false }

/-- A stream that stands at its second byte. -/
def helloFromSecond : Stream := { content := Utf8.ofString "hello", position := 1 }

/-- The exchanges of a call that stores three bytes of the stream. -/
def exchangesOfThree : List Exchange :=
  ((retryingOnce.perform (.put "bucket" "key" (.stream helloFromSecond) "" (some (.known 3))
    .empty)).run interrupted).2.journal.exchanges

/-- The second request carries the three bytes, although the first has read two of them. -/
theorem exchangesOfThree_second :
    ∃ x chunks, exchangesOfThree[1]? = some x ∧
      x.request.headers.get? "Content-Length" = some "3" ∧ x.cargo = .chunks chunks ∧
      (∀ chunk ∈ chunks, chunk ≠ [] ∧ (chunk.length : Int) ≤ 2) ∧
      chunks.flatten = Utf8.ofString "ell" := by
  obtain ⟨r, hr⟩ :
      ∃ r, (StorageCall.put "bucket" "key" (.stream helloFromSecond) "" (some (.known 3))
      .empty).request (some retryingOnce.endpoint.region) = .ok r := ⟨_, rfl⟩
  obtain ⟨bytes, hbytes, -, xs, hexchanges, hxs⟩ :=
    perform_put_sends_same_bytes retryingOnce "bucket" "key" "" helloFromSecond rfl
      (some (.known 3)) .empty r hr interrupted (by decide)
  have hsame : exchangesOfThree = xs := by
    rw [exchangesOfThree, hexchanges]
    exact List.nil_append xs
  have hcount : exchangesOfThree.length = 2 := by decide +kernel
  rw [hsame] at hcount ⊢
  obtain ⟨x, hx⟩ : ∃ x, xs[1]? = some x := ⟨xs[1], List.getElem?_eq_getElem (by omega)⟩
  obtain ⟨hannounced, chunks, hcargo, hchunks, -, hall⟩ := hxs 1 x hx
  refine ⟨x, chunks, hx, hannounced, hcargo, hchunks, ?_⟩
  rw [hall (by intro k hk; cases hk), hbytes]
  decide

end StorageConnection

end CloudClient
