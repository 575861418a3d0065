import CloudClient.Decode
import CloudClient.Proofs.Decode.Header
import CloudClient.Proofs.Success

/-!
# What decoding ends in

A response is decoded by the operation that it answers. Main statement: whatever its status, its
headers and its body are, it is decoded to a result of that operation or to a fault of that
operation that names the resource of the call, but for the headers of an object: a length that fails
escapes from an answer that nothing has changed, and a date that is out of all range escapes
wherever it is read.
-/

namespace CloudClient

/-- The operation that a result answers. -/
def Result.operation : Result → Operation
  | createBucket .. => .createBucket
  | listAllBuckets .. => .listAllBuckets
  | deleteBucket .. => .deleteBucket
  | listBucket .. => .listBucket
  | put .. => .put
  | get .. => .get
  | delete .. => .delete
  | head .. => .head
  | createQueue .. => .createQueue
  | listQueues .. => .listQueues
  | deleteQueue .. => .deleteQueue
  | sendMessage .. => .sendMessage
  | receiveMessage .. => .receiveMessage
  | deleteMessage .. => .deleteMessage
  | getQueueAttributes .. => .getQueueAttributes

/-- A fault is one of an operation and names a resource. -/
def Fault.Tells (f : Fault) (operation : Operation) (resource : String) : Prop :=
  ∃ diagnosis, f.family = .service (some operation) diagnosis ∧ diagnosis.resource = some resource

/-- The date of an object fails, and its length does not. -/
def Header.DateFails (h : ResponseHeaders) (e : DateError) : Prop :=
  (∃ length, contentLength h = .ok length) ∧ date (h.first? "Last-Modified") = .error e

namespace CallInfo

/-- What answers a call: a result of its operation, or a fault of its operation that names its
resource. -/
def Answers (c : CallInfo) : Except Fault Result → Prop
  | .ok result => result.operation = c.operation
  | .error f => f.Tells c.operation c.resource

/-- The failures that escape from decoding. -/
inductive Escapes (c : CallInfo) (r : Response) : Failure → Prop where
  /-- An object has not changed, and its length cannot be read. -/
  | length {e : IntegerError} (hstatus : r.status = 304) (hget : c.operation = .get)
      (hlength : Header.contentLength r.headers = .error e) : Escapes c r (.integer e)
  /-- An object has not changed, and its date is out of all range. -/
  | unchangedDate {e : DateError} (hstatus : r.status = 304) (hget : c.operation = .get)
      (hdate : Header.DateFails r.headers e) : Escapes c r (.date e)
  /-- An object is brought or told of, and its date is out of all range. -/
  | date {e : DateError} (hok : r.isOk = true) (hheaders : c.operation = .get ∨ c.operation = .head)
      (hdate : Header.DateFails r.headers e) : Escapes c r (.date e)

/-- A response lets one failure escape at most. -/
theorem Escapes.unique {c : CallInfo} {r : Response} {e e' : Failure} (h : c.Escapes r e)
    (h' : c.Escapes r e') : e = e' := by
  have hlength : ∀ {e e'}, Header.contentLength r.headers = .error e →
      ¬Header.DateFails r.headers e' := by
    rintro e e' he ⟨⟨length, hlength⟩, -⟩
    rw [he] at hlength
    cases hlength
  have hdates : ∀ {e e'}, Header.DateFails r.headers e → Header.DateFails r.headers e' →
      e = e' := by
    intro e e' he he'
    exact Except.error.inj (he.2.symm.trans he'.2)
  cases h with
  | length _ _ he =>
    cases h' with
    | length _ _ he' => rw [Except.error.inj (he.symm.trans he')]
    | unchangedDate _ _ he' | date _ _ he' => exact absurd he' (hlength he)
  | unchangedDate _ _ he | date _ _ he =>
    cases h' with
    | length _ _ he' => exact absurd he (hlength he')
    | unchangedDate _ _ he' | date _ _ he' => rw [hdates he he']

/-- Nothing escapes when both headers can be read. -/
theorem not_escapes_of_read {c : CallInfo} {r : Response} {length : Option Int}
    {time : Option DateTime} (hlength : Header.contentLength r.headers = .ok length)
    (hdate : Header.date (r.headers.first? "Last-Modified") = .ok time) (e : Failure) :
    ¬c.Escapes r e := by
  intro h
  cases h with
  | length _ _ he =>
    rw [hlength] at he
    cases he
  | unchangedDate _ _ he | date _ _ he =>
    have hfails := he.2
    rw [hdate] at hfails
    cases hfails

/-- Nothing escapes when an object may have changed, unless its headers are read and their date
fails. -/
theorem not_escapes_of_status {c : CallInfo} {r : Response}
    (hchanged : ¬(r.status = 304 ∧ c.operation = .get))
    (hdate : r.isOk = true → c.operation = .get ∨ c.operation = .head →
      ∀ e, ¬Header.DateFails r.headers e) (e : Failure) : ¬c.Escapes r e := by
  intro h
  cases h with
  | length hstatus hget _ | unchangedDate hstatus hget _ => exact hchanged ⟨hstatus, hget⟩
  | date hok hheaders he => exact hdate hok hheaders _ he

end CallInfo

/-! ## Headers -/

/-- The properties of an object can be read unless its length or its date fails; the length is read
first. -/
theorem Header.objectInfo_cases (h : ResponseHeaders) :
    (∃ info, objectInfo h = .ok info ∧ (∃ length, contentLength h = .ok length) ∧
        ∃ time, date (h.first? "Last-Modified") = .ok time) ∨
      (∃ e, contentLength h = .error e ∧ objectInfo h = .error (.integer e)) ∨
      (∃ e, DateFails h e ∧ objectInfo h = .error (.date e)) := by
  unfold objectInfo
  cases hlength : contentLength h with
  | error e => exact .inr (.inl ⟨e, rfl, rfl⟩)
  | ok length =>
    cases hdate : date (h.first? "Last-Modified") with
    | error e => exact .inr (.inr ⟨e, ⟨⟨length, hlength⟩, hdate⟩, rfl⟩)
    | ok time => exact .inl ⟨_, rfl, ⟨length, rfl⟩, time, rfl⟩

namespace Decode

variable {c : CallInfo} {r : Response}

/-! ## Results -/

/-- A fault of a body that cannot be read tells of its operation. -/
theorem tells_malformedResponse (c : CallInfo) (r : Response) (reason : String) :
    (Fault.malformedResponse c.operation r.status c.resource r.requestId reason).Tells c.operation
      c.resource :=
  ⟨_, rfl, rfl⟩

/-- A document that is read as a result of the operation answers the call, and so does one that
cannot be read. -/
theorem answers_ofDocument {d : Except DocumentError Result}
    (h : ∀ x, d = .ok x → x.operation = c.operation) : c.Answers (ofDocument c r d) := by
  cases d with
  | ok x => exact h x rfl
  | error e => exact tells_malformedResponse c r e.message

/-- Headers answer the call, unless their date fails. -/
theorem ofHeaders_cases {make : ObjectInfo → Result}
    (hmake : ∀ info, (make info).operation = c.operation) :
    (∃ out, ofHeaders c r make = .ok out ∧ c.Answers out ∧ ∀ e, ¬Header.DateFails r.headers e) ∨
      ∃ e, ofHeaders c r make = .error (.date e) ∧ Header.DateFails r.headers e := by
  unfold ofHeaders
  rcases Header.objectInfo_cases r.headers with ⟨info, hinfo, -, time, htime⟩ | ⟨e, he, hinfo⟩ |
    ⟨e, he, hinfo⟩
  · rw [hinfo]
    refine .inl ⟨_, rfl, hmake info, ?_⟩
    rintro e ⟨-, hdate⟩
    rw [htime] at hdate
    cases hdate
  · rw [hinfo]
    refine .inl ⟨_, rfl, tells_malformedResponse c r e.message, ?_⟩
    rintro e' ⟨⟨length, hlength⟩, -⟩
    rw [he] at hlength
    cases hlength
  · rw [hinfo]
    exact .inr ⟨e, rfl, he⟩

/-- An object that is brought or told of is decoded from its headers. -/
theorem result_of_headers (c : CallInfo) (r : Response)
    (h : c.operation = .get ∨ c.operation = .head) :
    (∃ out, result c r = .ok out ∧ c.Answers out ∧ ∀ e, ¬Header.DateFails r.headers e) ∨
      ∃ e, result c r = .error (.date e) ∧ Header.DateFails r.headers e := by
  obtain ⟨operation, resource, bucket, key, sentBody⟩ := c
  rcases h with hget | hhead
  · obtain rfl : operation = .get := hget
    exact ofHeaders_cases fun info => rfl
  · obtain rfl : operation = .head := hhead
    exact ofHeaders_cases fun info => rfl

/-- Any other good answer is decoded to an answer of its operation, whatever its body is. -/
theorem answers_result (c : CallInfo) (r : Response) (hget : c.operation ≠ .get)
    (hhead : c.operation ≠ .head) : ∃ out, result c r = .ok out ∧ c.Answers out := by
  obtain ⟨operation, resource, bucket, key, sentBody⟩ := c
  -- A document of an operation ends in its result, behind steps that may fail.
  cases operation with
  | get => exact absurd rfl hget
  | head => exact absurd rfl hhead
  | createBucket | deleteBucket | put | delete => exact ⟨_, rfl, rfl⟩
  | listQueues | deleteQueue | deleteMessage =>
    refine ⟨_, rfl, answers_ofDocument fun x hx => ?_⟩
    obtain ⟨_, -, hx⟩ := exists_of_bind_eq_ok hx
    cases hx
    rfl
  | listAllBuckets | listBucket | createQueue | receiveMessage | getQueueAttributes =>
    refine ⟨_, rfl, answers_ofDocument fun x hx => ?_⟩
    obtain ⟨_, -, hx⟩ := exists_of_bind_eq_ok hx
    obtain ⟨_, -, hx⟩ := exists_of_bind_eq_ok hx
    cases hx
    rfl
  | sendMessage =>
    refine ⟨_, rfl, answers_ofDocument fun x hx => ?_⟩
    obtain ⟨_, -, hx⟩ := exists_of_bind_eq_ok hx
    obtain ⟨_, -, hx⟩ := exists_of_bind_eq_ok hx
    obtain ⟨_, -, hx⟩ := exists_of_bind_eq_ok hx
    cases hx
    rfl

/-- Checksums let an answer of the operation through, or become a fault of it. -/
theorem answers_checked {x : Result} (h : x.operation = c.operation) : c.Answers (checked c x) := by
  cases x with
  | sendMessage messageId md5 requestId =>
    rw [checked]
    split
    · exact h
    · split
      · exact h
      · exact ⟨_, rfl, rfl⟩
  | receiveMessage messages requestId =>
    rw [checked]
    split
    · exact h
    · exact ⟨_, rfl, rfl⟩
  | _ => exact h

/-- The checks of an answer leave it an answer. -/
theorem answers_bind_checked {out : Except Fault Result} (h : c.Answers out) :
    c.Answers (out.bind (checked c)) := by
  cases out with
  | ok x => exact answers_checked h
  | error f => exact h

end Decode

/-! ## All responses -/

/-- A response is decoded to an answer and lets nothing escape, or it lets a failure escape. -/
theorem decode_cases (c : CallInfo) (r : Response) :
    (∃ out, decode c r = .ok out ∧ c.Answers out ∧ ∀ e, ¬c.Escapes r e) ∨
      ∃ e, decode c r = .error e ∧ c.Escapes r e := by
  unfold decode
  by_cases hunchanged : r.status = 304 ∧ c.operation = .get
  · obtain ⟨hstatus, hget⟩ := hunchanged
    rw [if_pos ⟨hstatus, hget⟩]
    rcases Header.objectInfo_cases r.headers with ⟨info, hinfo, ⟨length, hlength⟩, time, htime⟩ |
      ⟨e, he, hinfo⟩ | ⟨e, he, hinfo⟩
    · rw [hinfo]
      exact .inl ⟨_, rfl, hget.symm, CallInfo.not_escapes_of_read hlength htime⟩
    · rw [hinfo]
      exact .inr ⟨_, rfl, .length hstatus hget he⟩
    · rw [hinfo]
      exact .inr ⟨_, rfl, .unchangedDate hstatus hget he⟩
  · rw [if_neg hunchanged]
    cases hok : r.isOk with
    | false =>
      rw [Bool.not_false, if_pos rfl]
      refine .inl ⟨_, rfl, ⟨_, rfl, rfl⟩, CallInfo.not_escapes_of_status hunchanged ?_⟩
      intro hok'
      rw [hok] at hok'
      cases hok'
    | true =>
      rw [if_neg (by simp)]
      by_cases hheaders : c.operation = .get ∨ c.operation = .head
      · rcases Decode.result_of_headers c r hheaders with ⟨out, hout, hanswers, hnone⟩ |
          ⟨e, he, hfails⟩
        · rw [hout]
          exact .inl ⟨_, rfl, Decode.answers_bind_checked hanswers,
            CallInfo.not_escapes_of_status hunchanged fun _ _ => hnone⟩
        · rw [he]
          exact .inr ⟨_, rfl, .date hok hheaders hfails⟩
      · obtain ⟨out, hout, hanswers⟩ := Decode.answers_result c r (fun h => hheaders (.inl h))
          (fun h => hheaders (.inr h))
        rw [hout]
        exact .inl ⟨_, rfl, Decode.answers_bind_checked hanswers,
          CallInfo.not_escapes_of_status hunchanged fun _ h => absurd h hheaders⟩

/-- A length escapes where an object has not changed and its length looks like a number and is none.
-/
theorem CallInfo.escapes_integer_iff (c : CallInfo) (r : Response) :
    (∃ e, c.Escapes r (.integer e)) ↔
      r.status = 304 ∧ c.operation = .get ∧ Header.HasFalseLength r.headers := by
  rw [← Header.contentLength_fails_iff]
  constructor
  · rintro ⟨e, hstatus, hget, he⟩
    exact ⟨hstatus, hget, e, he⟩
  · rintro ⟨hstatus, hget, e, he⟩
    exact ⟨e, .length hstatus hget he⟩

/-- A date escapes only when it is out of all range. -/
theorem CallInfo.Escapes.isOverflow {c : CallInfo} {r : Response} {e : DateError}
    (h : c.Escapes r (.date e)) : e.isOverflow = true := by
  cases h with
  | unchangedDate _ _ hdate | date _ _ hdate => exact Header.isOverflow_of_date hdate.2

/-- **What decoding ends in.** Whatever is decoded of a response, of any status, headers and body,
is a result of the operation or a fault of the operation that names the resource of the call.
Nothing else escapes than the length of an object that has not changed, when it looks like a number
and is none, and the date of an object, when it is out of all range. -/
theorem decode_answers_or_escapes (c : CallInfo) (r : Response) :
    (∀ out, decode c r = .ok out → c.Answers out) ∧
      (∀ e, decode c r = .error e ↔ c.Escapes r e) ∧
      ((∃ e, decode c r = .error (.integer e)) ↔
        r.status = 304 ∧ c.operation = .get ∧ Header.HasFalseLength r.headers) ∧
      (∀ e, decode c r = .error (.date e) → e.isOverflow = true) := by
  have hescapes : ∀ e, decode c r = .error e ↔ c.Escapes r e := by
    intro e
    rcases decode_cases c r with ⟨out, hout, -, hnone⟩ | ⟨e', he', hescapes⟩
    · rw [hout]
      constructor
      · intro he
        cases he
      · exact fun h => absurd h (hnone e)
    · rw [he', Except.error.injEq]
      constructor
      · rintro rfl
        exact hescapes
      · exact hescapes.unique
  refine ⟨?_, hescapes, ?_, fun e he => ((hescapes _).1 he).isOverflow⟩
  · intro out hout
    rcases decode_cases c r with ⟨out', hout', hanswers, -⟩ | ⟨e, he, -⟩
    · rw [hout] at hout'
      cases hout'
      exact hanswers
    · rw [hout] at he
      cases he
  · rw [← c.escapes_integer_iff r]
    exact exists_congr fun e => hescapes (.integer e)

/-- The answer that an object has not changed, with a length that looks like a digit and is none. -/
def superscriptLength : Response where
  status := 304
  headers := [("Content-Length", "²")]

/-- This answer is not decoded: the failure of its length escapes. -/
theorem superscriptLength_escapes :
    ¬∃ out, decode { operation := .get, resource := "r", bucket := "bucket1", key := "k" }
      superscriptLength = .ok out := by
  have hescapes : decode { operation := .get, resource := "r", bucket := "bucket1", key := "k" }
      superscriptLength = .error (.integer (.malformed "²")) := rfl
  rintro ⟨out, hout⟩
  rw [hescapes] at hout
  cases hout

end CloudClient
