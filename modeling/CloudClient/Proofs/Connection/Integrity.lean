import CloudClient.Proofs.Connection.RetrySafety
import CloudClient.Proofs.Decode.Envelope

/-!
# Messages arrive intact

A message that the service received or hands out with a checksum is held against that checksum, by
the decoder and so by the calls that send and receive messages. Main statement: no checksum in a
result fails to fit, and a good response with one that does not fit becomes the fault that tells of
the first one.
-/

namespace CloudClient

/-- A response of the session whose body has been read. -/
def SessionResponse.read (a : SessionResponse) : Response :=
  { status := a.status, reason := a.reason, headers := a.headers, body := a.body }

/-- Checksums come with messages that are sent or received, and these calls are sent once. -/
theorem QueueCall.isSentOnce_of_isCorrupt {call : QueueCall} {r : Request} {answer : Response}
    (h : (call.info r).IsCorrupt answer) : call.isSentOnce = true := by
  have hoperation : call.operation = .receiveMessage ∨ call.operation = .sendMessage := by
    cases h with
    | received hc => exact .inl hc
    | sent hc => exact .inr hc
  cases call with
  | sendMessage url body | receiveMessage url count hiddenFor => rfl
  | _ => simp [operation] at hoperation

namespace ServiceCall

variable {c : ServiceCall} {r : Request} {t : Transport} {first : SignedRequest}

/-- A failure is no result. -/
theorem outcome_ofFailure_ne (e : Failure) (x : Result) :
    (CallEnd.ofFailure e).outcome ≠ .ok (.ok x) := by
  intro h
  cases e <;> cases h

/-- A call that has a result has decoded a response. -/
theorem exists_of_outcome_eq_ok {x : Result} (h : (c.perform.run t).1.outcome = .ok (.ok x)) :
    ∃ r answer, c.request = .ok r ∧ decode (c.info r) answer = .ok (.ok x) := by
  cases hr : c.request with
  | error e =>
    rw [run_perform_of_refused hr] at h
    exact absurd h (outcome_ofFailure_ne e x)
  | ok r =>
    rw [run_perform hr] at h
    generalize ((Flight.execute c.policy (c.scope r) c.wantsLive
      (r.signed c.credentials c.endpoint)).run t).1 = a at h
    cases a with
    | error e => exact absurd h (outcome_ofFailure_ne e x)
    | ok a => exact ⟨r, a.response, rfl, h⟩

/-- A call that is sent once makes one exchange, which decides its end. -/
theorem ends_of_isSentOnce (hr : c.request = .ok r) (honce : c.isSentOnce r = true)
    (hword : ∀ p, r.body = .stream p → Stream.isWord p.stream.position = true)
    (hopen : t.isClosed = false)
    (hfirst : c.signedAt r (t.supply.clock t.readings) = .ok first) :
    ∃ x b, x.request = { first with body := b } ∧ first.body.SentAs b ∧
      (c.perform.run t).2.journal.exchanges = t.journal.exchanges ++ [x] ∧
      (t.outcomeAt c.wantsLive t.delivered x).Ends (c.info r) (c.perform.run t).1.outcome := by
  have hpolicy : (Flight.sendingRules c.policy first).policy = .single := by
    rw [sendingRules_policy hr hword hfirst, if_pos honce]
  have hattempts : (Flight.sendingRules c.policy first).policy.maxRetries = (0 : Nat) := by
    rw [hpolicy]
    rfl
  have hwaits : (Flight.sendingRules c.policy first).policy.HasWaits 0 := by
    intro i hi
    omega
  have hsignable : Flight.Signable r c.credentials c.endpoint t 0 := by
    intro i hi
    obtain rfl : i = 0 := by omega
    exact ⟨first, hfirst, fun hpos => absurd hpos (by omega)⟩
  obtain ⟨scope, t₀, ht₀, hexecute⟩ :=
    Flight.run_execute_eq c.policy hfirst (c.scope r) c.wantsLive
  obtain ⟨xs, x, stats, a, s, hrun, hlength, hturn, -, -, htold, delivered, hledger⟩ :=
    Flight.run_sending hattempts hwaits hopen hfirst hsignable scope ht₀
  obtain rfl : xs = [] := List.eq_nil_of_length_eq_zero (by omega)
  obtain ⟨q, b, hq, hsent, hx⟩ := hturn 0 x rfl
  obtain rfl : first = q := Except.ok.inj (hfirst.symm.trans hq)
  rw [hrun] at hexecute
  have hperform : c.perform.run t = (CallEnd.ofExecution (c.info r) a, s.2) := by
    rw [run_perform hr, hexecute]
  rw [hperform]
  exact ⟨x, b, hx, hsent, congrArg Ledger.exchanges hledger, htold.ends (c.info r)⟩

/-- The first request of a call is answered: it can be made and signed, the transport is open, and
the session comes back with a response that can be read. -/
structure IsAnswered (c : ServiceCall) (r : Request) (t : Transport)
    (a : SessionResponse) : Prop where
  request : c.request = .ok r
  isOpen : t.isClosed = false
  isSigned : ∃ q, c.signedAt r (t.supply.clock t.readings) = .ok q
  reply : (t.supply.delivery t.delivered).reply = .response a
  isRead : a.readFailure = none

/-- Messages are sent and received as the response to one request says. -/
theorem outcome_of_isAnswered {connection : QueueConnection} {call : QueueCall}
    {a : SessionResponse} (honce : call.isSentOnce = true)
    (h : (queue connection call).IsAnswered r t a) :
    ((connection.perform call).run t).1.outcome = decode (call.info r) a.read := by
  obtain ⟨q, hq⟩ := h.isSigned
  obtain ⟨operation, path, resource, fields, -, rfl⟩ := QueueCall.exists_form h.request
  obtain ⟨x, b, hx, hsent, -, hends⟩ :=
    ends_of_isSentOnce h.request honce (fun p hp => by cases hp) h.isOpen hq
  -- A form is no stream, so that the session takes all of it.
  have hshort :
      (b.handOver t.config.chunkSize.toNat (t.supply.delivery t.delivered).pulls).shortage =
      none := by
    have hbody : q.body = .empty ∨ ∃ data, q.body = .bytes data := by
      cases hclock : t.supply.clock t.readings with
      | error e =>
        rw [hclock] at hq
        cases hq
      | ok time =>
        rw [hclock] at hq
        exact (Signer.keeps_of_sign hq).body
    rcases hbody with hbody | ⟨data, hbody⟩
    · rw [hbody] at hsent
      obtain rfl : b = .empty := hsent
      rfl
    · rw [hbody] at hsent
      obtain rfl : b = .bytes data := hsent
      rfl
  have houtcome : t.outcomeAt (queue connection call).wantsLive t.delivered x =
      .answered a.read := by
    rw [Transport.outcomeAt, hx, SendOutcome.ofDelivery, hshort, h.reply]
    dsimp only [SendOutcome.ofReply, wantsLive]
    rw [h.isRead]
    rfl
  rw [houtcome] at hends
  exact hends

end ServiceCall

/-- **A corrupted message is never delivered as a success.** A result, of a response or of a call,
has no checksum that does not fit; a good response that can be read and has one, and the call that
it answers, end in the fault of the operation that tells of the first one in the document. -/
theorem corruption_is_never_success (c : CallInfo) (answer : Response)
    (connection : QueueConnection) (call : QueueCall) (t : Transport) :
    (∀ x, decode c answer = .ok (.ok x) → x.operation = c.operation ∧ x.IsIntact c.sentBody) ∧
    (answer.isOk = true → c.IsCorrupt answer → ∃ f, decode c answer = .ok (.error f) ∧
      c.Mismatch answer f ∧ f.Tells c.operation c.resource ∧ f.code = .integrityMismatch) ∧
    (∀ x, ((connection.perform call).run t).1.outcome = .ok (.ok x) →
      x.operation = call.operation ∧ x.IsIntact call.sentBody?) ∧
    (∀ r a, (ServiceCall.queue connection call).IsAnswered r t a → a.read.isOk = true →
      (call.info r).IsCorrupt a.read →
        ∃ f, ((connection.perform call).run t).1.outcome = .ok (.error f) ∧
          (call.info r).Mismatch a.read f ∧ f.Tells call.operation r.resource ∧
          f.code = .integrityMismatch) := by
  refine ⟨fun x => isIntact_of_decode, fun hok hcorrupt => ?_, fun x h => ?_,
    fun r a hanswered hok hcorrupt => ?_⟩
  · obtain ⟨f, hf⟩ := exists_mismatch hcorrupt
    exact ⟨f, decode_of_mismatch hok hf, hf, hf.tells⟩
  · obtain ⟨r, a, -, ha⟩ := ServiceCall.exists_of_outcome_eq_ok (c := .queue connection call) h
    exact isIntact_of_decode ha
  · obtain ⟨f, hf⟩ := exists_mismatch hcorrupt
    refine ⟨f, ?_, hf, hf.tells⟩
    rw [ServiceCall.outcome_of_isAnswered (QueueCall.isSentOnce_of_isCorrupt hcorrupt) hanswered,
      decode_of_mismatch hok hf]

/-- Two messages, of which the second has a checksum that is none. -/
def corruptBatch : List Message :=
  [{ messageId := "m1", receiptHandle := "h1", body := "a" },
   { messageId := "m2", receiptHandle := "h2", body := "b", md5OfBody := "z" }]

/-- The envelope of these messages. -/
def corruptEnvelope : QueueDocument.Envelope :=
  { answer := .messages corruptBatch, requestId := "r1", heading := .version, space := none
    vacancy := .absent }

/-- A transport whose session answers with these messages. -/
def corrupting : Transport where
  supply :=
    { clock := fun _ => .ok ⟨2024, 1, 1, 0, 0, 0, 0, some 0⟩
      share := fun _ => .zero false
      delivery := fun _ => { reply := .response { body := corruptEnvelope.document.bytes } } }

/-- A connection to a plain endpoint of the queue service. -/
def plainConnection : QueueConnection where
  credentials := ⟨"id", "secret", none⟩
  endpoint := { url := "http://h", signature := .v2 }

/-- The call that receives these messages ends in a fault. -/
theorem corruptBatch_is_told :
    ∃ f, ((plainConnection.perform (.receiveMessage "http://h/1/q" (.int 2) .null)).run
      corrupting).1.outcome = .ok (.error f) ∧ f.code = .integrityMismatch := by
  have hmade : ∃ r, (QueueCall.receiveMessage "http://h/1/q" (.int 2) .null).request
      QueueRequest.defaultVersion = .ok r ∧ ∃ q, Flight.signedAt r plainConnection.credentials
        plainConnection.endpoint (.ok ⟨2024, 1, 1, 0, 0, 0, 0, some 0⟩) = .ok q := ⟨_, rfl, _, rfl⟩
  obtain ⟨r, hr, hsigned⟩ := hmade
  have hplain : Xml.Field.AllFit StorageDocument.IsPlainText corruptEnvelope.document.fields :=
    ⟨⟨by decide,
      ⟨by decide, ⟨by decide, by decide⟩, ⟨by decide, by decide⟩, ⟨by decide, by decide⟩,
        ⟨by decide, by decide⟩, trivial⟩,
      ⟨by decide, ⟨by decide, by decide⟩, ⟨by decide, by decide⟩, ⟨by decide, by decide⟩,
        ⟨by decide, by decide⟩, trivial⟩, trivial⟩,
      ⟨by decide, ⟨by decide, by decide⟩, trivial⟩, trivial⟩
  have hroot : Document.root corruptEnvelope.document.bytes = .ok corruptEnvelope.document.root :=
    QueueDocument.Envelope.root_bytes hplain (fun s hs => by cases hs)
  have hcorrupt : ¬Message.IsIntact
      { messageId := "m2", receiptHandle := "h2", body := "b", md5OfBody := "z" } := by
    intro h
    have hz : 'z' ∈ (md5Text "b").toList := by
      rw [← h (by decide)]
      decide
    obtain ⟨n, hn, heq⟩ := exists_hexDigit_of_mem_md5Text hz
    revert n
    decide
  obtain ⟨-, -, -, htold⟩ := corruption_is_never_success
    ((QueueCall.receiveMessage "http://h/1/q" (.int 2) .null).info r) { status := 200 }
      plainConnection
    (.receiveMessage "http://h/1/q" (.int 2) .null) corrupting
  obtain ⟨f, hf, -, -, hcode⟩ := htold r { body := corruptEnvelope.document.bytes }
    ⟨hr, rfl, hsigned, rfl, rfl⟩ rfl
    (.received rfl hroot (QueueDocument.Envelope.mapM_message_root rfl)
      (List.mem_cons_of_mem _ List.mem_cons_self) hcorrupt)
  exact ⟨f, hf, hcode⟩

end CloudClient
