import CloudClient.Proofs.Connection.RetrySafety
import CloudClient.Proofs.Request.Refusal

/-!
# Calls that are rejected

A call whose arguments make no request, or whose request cannot be signed, ends in a fault before
anything is sent. Main statements: bad input of any call ends in such a fault, but for the locators
of queues that cannot be taken apart, whose failure reaches the caller as it is; and a rejected call
leaves everything as it was.
-/

namespace CloudClient

namespace StorageCall

/-- The payload of a call. -/
def payload? : StorageCall → Option Payload
  | put _ _ data _ _ _ => some data
  | _ => none

/-- The payload of a call as making the request leaves it, whether a request is made or not. -/
def payloadAfter? : StorageCall → Option Payload
  | put bucket key data contentType size metadata =>
    some (StorageRequest.put bucket key data contentType size metadata).2
  | _ => none

/-- A payload stays as it is: a stream goes back to where it stood. -/
theorem payloadAfter?_eq (call : StorageCall) : call.payloadAfter? = call.payload? := by
  cases call with
  | put bucket key data contentType size metadata =>
    exact congrArg some (StorageRequest.snd_put bucket key data contentType size metadata)
  | _ => rfl

end StorageCall

namespace ServiceCall

variable {c : ServiceCall} {t : Transport} {r : Request} {f : Fault} {e : Failure}

/-- A call whose request cannot be signed has read the clock and done nothing else. -/
theorem run_perform_of_unsigned (hr : c.request = .ok r)
    (hunsigned : c.signedAt r (t.supply.clock t.readings) = .error e) :
    c.perform.run t = (.ofFailure e, t.readClock.2) := by
  rw [run_perform hr, Flight.run_execute_of_unsigned c.policy hunsigned (c.scope r) c.wantsLive]
  rfl

/-- A fault of signing is that of the path of the request. -/
theorem checkPath_of_unsigned {reading : Except DateError DateTime}
    (h : c.signedAt r reading = .error (.fault f)) : Signature.checkPath r.path = .error f := by
  cases reading with
  | error e => cases h
  | ok time => exact Signer.failsAs_sign _ _ h f rfl

/-- No fault of a request is another than a refusal. -/
theorem isRefusal_of_request (h : c.request = .error (.fault f)) : f.IsRefusal := by
  cases c with
  | storage connection call =>
    obtain ⟨g, hg, hfault⟩ := exists_of_mapError_eq_error h
    obtain rfl : g = f := Failure.fault.inj hfault
    exact call.failsAs_request _ g hg
  | queue connection call =>
    cases call.failsAs_request _ _ h with
    | fault hf => exact hf

/-- The payload of a call, which calls of the queue service do not have. -/
def payload? : ServiceCall → Option Payload
  | storage _ call => call.payload?
  | queue _ _ => none

/-- The payload of a call as making the request leaves it. -/
def payloadAfter? : ServiceCall → Option Payload
  | storage _ call => call.payloadAfter?
  | queue _ _ => none

/-- A call is rejected with a fault: its arguments make no request, or the request cannot be signed.
-/
def IsRejected (c : ServiceCall) (t : Transport) (f : Fault) : Prop :=
  c.request = .error (.fault f) ∨
    ∃ r, c.request = .ok r ∧ c.signedAt r (t.supply.clock t.readings) = .error (.fault f)

/-- A rejected call ends in its fault, on a transport that has read its clock at most. -/
theorem IsRejected.run_perform (h : c.IsRejected t f) :
    ∃ n ≤ 1, c.perform.run t =
      ({ outcome := .ok (.error f) }, { t with readings := t.readings + n }) := by
  rcases h with hr | ⟨r, hr, hsigned⟩
  · exact ⟨0, by omega, run_perform_of_refused hr t⟩
  · exact ⟨1, by omega, run_perform_of_unsigned hr hsigned⟩

/-- A rejected call has a fault that refuses an argument. -/
theorem IsRejected.isRefusal (h : c.IsRejected t f) : f.IsRefusal := by
  rcases h with hr | ⟨r, -, hsigned⟩
  · exact isRefusal_of_request hr
  · exact .inl (Signer.family_of_checkPath (checkPath_of_unsigned hsigned))

/-- A rejected call is not signed at any other time. -/
theorem IsRejected.signedAt_ne_ok (h : c.IsRejected t f) (hr : c.request = .ok r)
    (reading : Except DateError DateTime) (q : SignedRequest) : c.signedAt r reading ≠ .ok q := by
  intro hq
  rcases h with hrefused | ⟨r', hr', hsigned⟩
  · rw [hr] at hrefused
    cases hrefused
  · obtain rfl : r = r' := Except.ok.inj (hr.symm.trans hr')
    cases reading with
    | error e => cases hq
    | ok time =>
      have hpath := Signer.checkPath_of_sign hq
      rw [checkPath_of_unsigned hsigned] at hpath
      cases hpath

/-- **A rejected call has no effect.** On any transport, open or closed and with whatever history,
it ends in the fault and leaves no live body. -/
theorem rejected_call_has_no_effect (h : c.IsRejected t f) :
    (c.perform.run t).1 = { outcome := .ok (.error f) } ∧ f.IsRefusal ∧
      -- no exchange, no wait and no count, for nothing changes but that the clock may have been
      -- read
      (∃ n ≤ 1, (c.perform.run t).2 = { t with readings := t.readings + n }) ∧
      -- a stream stands where it stood
      c.payloadAfter? = c.payload? ∧
      -- nor could the call have been sent at another time
      ∀ r, c.request = .ok r → ∀ reading q, c.signedAt r reading ≠ .ok q := by
  obtain ⟨n, hn, hrun⟩ := h.run_perform
  refine ⟨by rw [hrun], h.isRefusal, ⟨n, hn, by rw [hrun]⟩, ?_, fun r hr => h.signedAt_ne_ok hr⟩
  cases c with
  | storage connection call => exact call.payloadAfter?_eq
  | queue connection call => rfl

/-- A call that stores a stream, which stands at its second byte, under a key with a segment of
dots. -/
def dotted : ServiceCall :=
  .storage { credentials := ⟨"id", "secret", none⟩, endpoint := { url := "http://h" } }
    (.put "bucket" "a/../b" (.stream { content := [1, 2, 3], position := 1 }) "" none .empty)

/-- A closed transport that has sent requests. -/
def worn : Transport := { silent with isClosed := true, metrics := { requests := 3 } }

/-- The call is rejected when it is signed, and the closed transport is not asked for anything. -/
theorem dotted_is_rejected :
    ∃ f, dotted.IsRejected worn f ∧ (dotted.perform.run worn).1.outcome = .ok (.error f) ∧
      f.code = .malformedPath ∧ (dotted.perform.run worn).2.metrics.requests = 3 := by
  have hrejected : ∃ f, dotted.IsRejected worn f ∧ f.code = .malformedPath :=
    ⟨_, .inr ⟨_, rfl, rfl⟩, rfl⟩
  obtain ⟨f, hf, hcode⟩ := hrejected
  obtain ⟨hend, -, ⟨n, -, hrun⟩, -⟩ := rejected_call_has_no_effect hf
  refine ⟨f, hf, ?_, hcode, ?_⟩
  · rw [hend]
  · rw [hrun]
    rfl

end ServiceCall

/-- **Input is refused, or its locator escapes.** A call of the storage service becomes a request or
is refused with a fault of construction, and so is a call of the queue service whose numbers are
integers, unless the locator of its queue cannot be taken apart. A refused call has its fault as its
result, and nothing is done; the failure of a locator is no result. Two kinds of input, which escape
as well, are outside the model: a stream that has been closed, and an integer of more than 4300
digits, whose text cannot be written into a message or a form. -/
theorem input_is_refused_or_escapes (stored : StorageCall) (region : Option String)
    (queued : QueueCall) (version : String) (c : ServiceCall) (t : Transport) :
    ((∃ r, stored.request region = .ok r) ∨
      ∃ f, stored.request region = .error f ∧ f.IsRefusal) ∧
    (queued.HasIntegers → (∃ r, queued.request version = .ok r) ∨
      (∃ f, queued.request version = .error (.fault f) ∧ f.IsRefusal) ∨
      ∃ e, queued.request version = .error (.uri e) ∧ queued.IsUnreadable e) ∧
    (∀ e, queued.IsUnreadable e → queued.request version = .error (.uri e)) ∧
    (∀ f, c.request = .error (.fault f) → c.perform.run t = ({ outcome := .ok (.error f) }, t)) ∧
    (∀ e, c.request = .error (.uri e) → c.perform.run t = ({ outcome := .error (.uri e) }, t)) := by
  refine ⟨?_, fun hintegers => ?_, fun e h => QueueCall.request_of_isUnreadable h version,
    fun f h => ServiceCall.run_perform_of_refused h t,
    fun e h => ServiceCall.run_perform_of_refused h t⟩
  · cases h : stored.request region with
    | ok r => exact .inl ⟨r, rfl⟩
    | error f => exact .inr ⟨f, rfl, stored.failsAs_request region f h⟩
  · cases h : queued.request version with
    | ok r => exact .inl ⟨r, rfl⟩
    | error e =>
      cases queued.failsAs_request version e h with
      | fault hf => exact .inr (.inl ⟨_, rfl, hf⟩)
      | uri he => exact .inr (.inr ⟨_, rfl, he⟩)
      | foreign hnone => exact absurd hintegers hnone

/-- An open bracket alone in the locator of a queue escapes from the call. -/
theorem openBracket_escapes :
    QueueCall.request QueueRequest.defaultVersion (.deleteQueue "http://[/q") =
        .error (.uri .unbalancedBrackets) ∧
      ∀ (connection : QueueConnection) t,
        ((connection.perform (.deleteQueue "http://[/q")).run t).1.outcome =
          .error (.uri .unbalancedBrackets) := by
  have hrequest : QueueCall.request QueueRequest.defaultVersion (.deleteQueue "http://[/q") =
      .error (.uri .unbalancedBrackets) :=
    QueueCall.request_of_isUnreadable ⟨_, rfl, by decide, rfl⟩ _
  refine ⟨hrequest, fun connection t => ?_⟩
  have hrun := ServiceCall.run_perform_of_refused
    (c := .queue connection (.deleteQueue "http://[/q")) hrequest t
  exact congrArg (·.1.outcome) hrun

end CloudClient
