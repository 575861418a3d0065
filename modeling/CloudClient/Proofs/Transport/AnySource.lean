import CloudClient.Proofs.Signature.Signed
import CloudClient.Proofs.Transport.Chunks
import CloudClient.Proofs.Transport.Sending

/-!
# Uploads from any source

The stream of a body belongs to the caller, and may give fewer bytes than it is asked for. Here a
request is sent whose body is drawn from any source that is read from its front, as a request is
sent whose body is a stream. Main statements: the session gets exactly the stated bytes, or the
bytes that are there and then a fault that tells how many they were; this fault is the end of the
call, and an upload is counted as far as it was drawn.
-/

namespace CloudClient

variable {σ : Type}

/-! ## Shortage -/

namespace Upload

/-- The fault of an upload of a stated length whose source has ended early. -/
def shortage? (u : Upload σ) (length : Int) : Option Fault :=
  if u.missing = 0 then none else some (StreamPart.shortage length u.missing)

variable {u : Upload σ} {left : σ → Bytes} {chunkSize : Nat} {length : Int} {source : σ}

/-- A source that holds the stated length is not found short. -/
theorem Draws.shortage?_of_le (h : u.Draws left chunkSize length.toNat source)
    (hle : length ≤ (left source).length) : u.shortage? length = none := by
  have hmissing := h.missing
  rw [shortage?, if_pos (by omega)]

/-- A source that holds less is found short by what it lacks. -/
theorem Draws.shortage?_of_lt (h : u.Draws left chunkSize length.toNat source)
    (hlt : (left source).length < length) :
    u.shortage? length = some (.invalidArgument "size" (.int length)
      s!"stream ended after {(left source).length} of {length} bytes") := by
  have hmissing := h.missing
  have hfound : length - (u.missing : Int) = ((left source).length : Int) := by omega
  rw [shortage?, if_neg (by omega), StreamPart.shortage, hfound]
  rfl

end Upload

/-! ## Sending -/

namespace Transport

/-- Sends a request whose body of a stated length is drawn from a source. -/
def sendFrom (read : σ → Nat → Bytes × σ) (t : Transport) (request : SignedRequest) (live : Bool)
    (length : Int) (source : σ) : Except Failure Answer × σ × Transport :=
  if t.isClosed then (.error (.fault (.transportClosed request.operation)), source, t)
  else
    let u := Upload.draw read t.config.chunkSize.toNat (t.supply.delivery t.delivered).pulls
      length.toNat source
    let (handed, t) := t.handOverCargo request live (.chunks u.chunks) (u.shortage? length)
    let (a, t) := t.settle handed
    (a, u.source, t)

/-- **A request whose body is a stream is sent in this way**, from the stream as the source. -/
theorem run_send_stream (t : Transport) (q : SignedRequest) (live : Bool) (p : StreamPart) :
    Flight.onTransport.run (Flight.send q live) (.stream p, t) =
      ((t.sendFrom Stream.readAtMost { q with body := .stream p } live p.length p.stream).1,
        .stream { p with stream :=
          (t.sendFrom Stream.readAtMost { q with body := .stream p } live p.length p.stream).2.1 },
        (t.sendFrom Stream.readAtMost { q with body := .stream p } live p.length
          p.stream).2.2) := by
  show ((((Flight.send q live (.stream p)).run t).1.1, _, _) : _ × _ × _) = _
  rw [Flight.send, Flight.run]
  cases hclosed : t.isClosed with
  | true =>
    rw [handOver, sendFrom, if_pos hclosed, if_pos hclosed]
    rfl
  | false =>
    rw [t.handOver_eq_handOverCargo hclosed _ live rfl, sendFrom, if_neg (by simp [hclosed])]
    rfl

/-- The bytes that were handed over are not counted again by what comes of the request. -/
theorem bytesSent_countOutcome (m : TransportMetrics) (o : SendOutcome) :
    (m.countOutcome o).bytesSent = m.bytesSent := by
  cases o with
  | short f => rfl
  | failed f =>
    rw [TransportMetrics.countOutcome]
    cases f.kind <;> rfl
  | answered r =>
    rw [TransportMetrics.countOutcome, TransportMetrics.countStatus]
    split <;> rfl

/-- What becomes of a request whose whole body would be an upload of a stated length, and of the
source and the transport with it. -/
structure Sends (t : Transport) (u : Upload σ) (length : Int) (request : SignedRequest)
    (live : Bool) (a : Except Failure Answer) (s : σ) (t' : Transport) : Prop where
  /-- The session gets the first chunks, which are noted and counted. -/
  yielded : ∃ chunks x, chunks <+: u.chunks ∧
    ((t.supply.delivery t.delivered).ReadsToEnd u.chunks → chunks = u.chunks ∧ s = u.source) ∧
    t'.journal.exchanges = t.journal.exchanges ++ [x] ∧ x.request = request ∧
      x.cargo = .chunks chunks ∧
    t'.metrics.bytesSent = t.metrics.bytesSent + chunks.flatten.length
  /-- A session that reads a short body to its end has no say, and no failure of it is counted. -/
  short : ∀ f, u.shortage? length = some f → (t.supply.delivery t.delivered).ReadsToEnd u.chunks →
    a = .error (.fault f) ∧ t'.metrics = (t.metrics.countSent u.size).countAttempt t.supply.latency
  /-- In all other cases its reply counts. -/
  replied : u.shortage? length = none ∨ ¬(t.supply.delivery t.delivered).ReadsToEnd u.chunks →
    a.map (·.response) =
      (SendOutcome.ofReply live (t.supply.delivery t.delivered).reply).result request
        t.config.requestTimeout

/-- **What is sent from a source on an open transport.** -/
theorem sends_sendFrom {t : Transport} (hopen : t.isClosed = false) (read : σ → Nat → Bytes × σ)
    (request : SignedRequest) (live : Bool) (length : Int) (source : σ) :
    ∃ a s t', t.sendFrom read request live length source = (a, s, t') ∧
      t.Sends (Upload.draw read t.config.chunkSize.toNat none length.toNat source) length
        request live a s t' := by
  obtain ⟨v, hv⟩ : ∃ v, Upload.draw read t.config.chunkSize.toNat
      (t.supply.delivery t.delivered).pulls length.toNat source = v := ⟨_, rfl⟩
  obtain ⟨a, t', x, hsettle, hrequest, hcargo, -, hanswer, hledger, hmetrics⟩ :=
    t.settle_handOverCargo request live (.chunks v.chunks) (v.shortage? length)
  refine ⟨a, v.source, t', ?_,
    ⟨v.chunks, x, hv ▸ Upload.chunks_draw_isPrefix _, ?_, congrArg Ledger.exchanges hledger,
    hrequest, hcargo, ?_⟩, ?_, ?_⟩
  · rw [sendFrom, if_neg (by simp [hopen])]
    dsimp only
    rw [hv, hsettle]
  · intro hend
    rw [← hv, Upload.draw_of_readsToEnd hend]
    exact ⟨rfl, rfl⟩
  · rw [hmetrics, bytesSent_countOutcome]
    rfl
  · intro f hshort hend
    rw [← hv, Upload.draw_of_readsToEnd hend, hshort] at hanswer hmetrics
    exact ⟨Flight.eq_error_of_map hanswer, hmetrics⟩
  · intro hreplied
    have hnone : v.shortage? length = none := by
      by_cases hend : (t.supply.delivery t.delivered).ReadsToEnd
          (Upload.draw read t.config.chunkSize.toNat none length.toNat source).chunks
      · rw [← hv, Upload.draw_of_readsToEnd hend]
        exact hreplied.resolve_right (not_not_intro hend)
      · rw [← hv, Upload.shortage?, if_pos (Upload.missing_draw_of_not_readsToEnd hend)]
    rw [hnone] at hanswer
    exact hanswer

end Transport

/-! ## Attempts -/

namespace Flight

/-- A loop of attempts that comes to a fault of construction is left with it, and has counted the
attempt. -/
theorem run_runFrom_of_construction {m : Type → Type} [Monad m] {τ : Type} (I : Interpretation m τ)
    {act : AttemptActions m Answer} {f : Fault} (hf : f.family = .construction) {n : Nat} {s s' : τ}
    (hattempt : I.run (act.attempt n) s = (.error (.fault f), s')) (policy : RetryPolicy)
    (first : SignedRequest) (retries : Nat) (stats : AttemptStats) :
    ∃ stats' : AttemptStats, stats'.total = stats.total + 1 ∧
      I.run ((sendingRules policy first).runFrom act retries n stats) s =
        ((stats', .error (.fault f)), s') := by
  have hfinal : (sendingRules policy first).isFinal (I.run (act.attempt n) s).1 = true := by
    rw [hattempt]
    simp [RetryRules.isFinal, sendingRules, Fault.isRetryable, hf]
  refine ⟨_, stats.total_tally (.error (.fault f) : Except Failure Answer), ?_⟩
  rw [RetryRules.run_runFrom_of_isFinal I act retries hfinal, hattempt]

/-- A request without a form is signed with its body. -/
theorem body_of_signedAt {request : Request} {credentials : Credentials} {endpoint : Endpoint}
    {reading : Except DateError DateTime} {q : SignedRequest}
    (h : signedAt request credentials endpoint reading = .ok q) (hform : request.form = none) :
    q.body = request.body := by
  cases reading with
  | error e => cases h
  | ok time => exact Signer.body_of_sign h hform

/-- **A call whose stream ends early makes one request**, and ends with the fault of the shortage.
-/
theorem run_execute_of_short {t : Transport} (hopen : t.isClosed = false) {request : Request}
    {credentials : Credentials} {endpoint : Endpoint} {first : SignedRequest}
    (hfirst : signedAt request credentials endpoint (t.supply.clock t.readings) = .ok first)
    {p : StreamPart} (hbody : request.body = .stream p) (hform : request.form = none) {f : Fault}
    (hshort : (p.upload t.config.chunkSize.toNat none).shortage? p.length = some f)
    (hf : f.family = .construction)
    (hend : (t.supply.delivery t.delivered).ReadsToEnd
      (p.upload t.config.chunkSize.toNat none).chunks)
    {policy : RetryPolicy} (hpolicy : 0 ≤ policy.maxRetries) (scope : Dict Json) (live : Bool) :
    ∃ t' x, (execute policy scope live (request.signed credentials endpoint)).run t =
        (.error (.fault f), t') ∧
      t'.journal.exchanges = t.journal.exchanges ++ [x] ∧
      x.cargo = .chunks (p.upload t.config.chunkSize.toNat none).chunks ∧
      t'.metrics = (t.metrics.countRequest.countSent
        (p.upload t.config.chunkSize.toNat none).size).countAttempt t.supply.latency := by
  obtain ⟨scope', hrun⟩ := run_execute_of_signed policy hfirst scope live
  let t₀ := t.readClock.2.count (·.countRequest)
  obtain ⟨a, s, t', hsend, hsent⟩ := Transport.sends_sendFrom (t := t₀) hopen Stream.readAtMost
    { first with body := .stream p } live p.length p.stream
  obtain ⟨rfl, hmetrics⟩ := hsent.short f hshort hend
  obtain ⟨chunks, x, -, hall, hexchanges, -, hcargo, -⟩ := hsent.yielded
  rw [(hall hend).1] at hcargo
  have hattempt : onTransport.run ((attemptActions first (request.signed credentials endpoint) live
      scope').attempt 0) (first.body, t₀) =
        (.error (.fault f), .stream { p with stream := s }, t') := by
    show onTransport.run (send first live) (first.body, t₀) = _
    rw [(body_of_signedAt hfirst hform).trans hbody, Transport.run_send_stream, hsend]
  obtain ⟨stats, -, hloop⟩ := run_runFrom_of_construction onTransport hf hattempt policy first
    (sendingRules policy first).policy.maxRetries.toNat {}
  have hallowed := maxRetries_sendingRules hpolicy first
  refine ⟨t', x, ?_, hexchanges, hcargo, hmetrics⟩
  rw [hrun, RetryRules.run, if_neg (by omega), hloop]

end Flight

/-! ## Uploads -/

/-- An upload that is drawn to its end from a source: of proper chunks, and exactly the stated bytes
when there are as many, or all that there are and a fault that tells their number. -/
structure Upload.IsExact (u : Upload σ) (left : σ → Bytes) (chunkSize length : Int)
    (source : σ) : Prop where
  chunk : ∀ chunk ∈ u.chunks, chunk ≠ [] ∧ (chunk.length : Int) ≤ chunkSize
  full : length ≤ (left source).length →
    u.chunks.flatten = (left source).take length.toNat ∧
      left u.source = (left source).drop length.toNat ∧ u.shortage? length = none
  short : (left source).length < length →
    u.chunks.flatten = left source ∧ left u.source = [] ∧
      u.shortage? length = some (.invalidArgument "size" (.int length)
        s!"stream ended after {(left source).length} of {length} bytes")

/-- What is drawn of a source is exact. -/
theorem Upload.Draws.isExact {u : Upload σ} {left : σ → Bytes} {chunkSize length : Int} {source : σ}
    (h : u.Draws left chunkSize.toNat length.toNat source) (hchunk : 1 ≤ chunkSize) :
    u.IsExact left chunkSize length source where
  chunk := by
    intro chunk hmem
    have hsize := h.chunk chunk hmem
    exact ⟨hsize.1, by omega⟩
  full := by
    intro hle
    exact ⟨h.bytes, h.rest, h.shortage?_of_le hle⟩
  short := by
    intro hlt
    have hall : (left source).length ≤ length.toNat := by omega
    have hbytes := h.bytes
    have hrest := h.rest
    rw [List.take_of_length_le hall] at hbytes
    rw [List.drop_of_length_le hall] at hrest
    exact ⟨hbytes, hrest, h.shortage?_of_lt hlt⟩

/-- **An upload is exact, or told to be short.** Let a body of a stated length be drawn from any
source that is read from its front, in chunks of at least one byte. The upload comes to its end when
it is asked for more chunks than there are bytes, and is then exact. Sent on an open transport it
goes to the session, and what was drawn is counted. A session that comes to the end of a short
source makes the attempt end with the fault of the shortage, whatever it replies itself, and no loop
of attempts goes on after that; in particular, a call whose stream holds less than it announces
makes one request. -/
theorem upload_is_exact_or_told_short {read : σ → Nat → Bytes × σ} {left : σ → Bytes}
    (hreads : Upload.Reads read left) {t : Transport} (hchunk : 1 ≤ t.config.chunkSize)
    (length : Int) (source : σ) :
    (∃ u : Upload σ,
      (∀ pulls : Option Nat, (∀ k, pulls = some k → min length.toNat (left source).length < k) →
        Upload.draw read t.config.chunkSize.toNat pulls length.toNat source = u) ∧
      u.IsExact left t.config.chunkSize length source ∧
      (t.isClosed = false → ∀ (request : SignedRequest) (live : Bool), ∃ a s t',
        t.sendFrom read request live length source = (a, s, t') ∧
        t.Sends u length request live a s t' ∧
        ((left source).length < length → (t.supply.delivery t.delivered).ReadsToEnd u.chunks →
          ∀ (policy : RetryPolicy) (first : SignedRequest)
            (act : AttemptActions (StateM (σ × Transport)) Answer) (n retries : Nat)
            (stats : AttemptStats), act.attempt n (source, t) = (a, s, t') →
            ∃ stats' : AttemptStats, stats'.total = stats.total + 1 ∧
              (Flight.sendingRules policy first).runFrom act retries n stats (source, t) =
                ((stats', a), s, t')))) ∧
    ∀ (request : Request) (credentials : Credentials) (endpoint : Endpoint) (first : SignedRequest)
      (p : StreamPart) (policy : RetryPolicy) (scope : Dict Json) (live : Bool),
      request.body = .stream p → request.form = none → (p.stream.rest.length : Int) < p.length →
      t.isClosed = false →
      Flight.signedAt request credentials endpoint (t.supply.clock t.readings) = .ok first →
      0 ≤ policy.maxRetries →
      (t.supply.delivery t.delivered).ReadsToEnd (p.upload t.config.chunkSize.toNat none).chunks →
      ∃ t' x, (Flight.execute policy scope live (request.signed credentials endpoint)).run t =
          (.error (.fault (.invalidArgument "size" (.int p.length)
            s!"stream ended after {p.stream.rest.length} of {p.length} bytes")), t') ∧
        t'.journal.exchanges = t.journal.exchanges ++ [x] ∧
        x.cargo = .chunks (p.upload t.config.chunkSize.toNat none).chunks ∧
        (p.upload t.config.chunkSize.toNat none).IsExact Stream.rest t.config.chunkSize
          p.length p.stream ∧
        t'.metrics = (t.metrics.countRequest.countSent p.stream.rest.length).countAttempt
          t.supply.latency := by
  have hpos : 0 < t.config.chunkSize.toNat := by omega
  constructor
  · have hdraws := Upload.draws_draw hreads hpos length.toNat source
    have hexact := hdraws.isExact hchunk
    refine ⟨_, fun pulls hpulls => ?_, hexact, fun hopen request live => ?_⟩
    · exact Upload.draw_of_readsToEnd (d := { pulls }) fun k hk =>
        hdraws.length_chunks_le.trans_lt (hpulls k hk)
    · obtain ⟨a, s, t', hsend, hsent⟩ :=
        Transport.sends_sendFrom hopen read request live length source
      refine ⟨a, s, t', hsend, hsent, fun hlt hend policy first act n retries stats hattempt => ?_⟩
      obtain ⟨rfl, -⟩ := hsent.short _ (hexact.short hlt).2.2 hend
      exact Flight.run_runFrom_of_construction (.state _) rfl hattempt policy first retries stats
  · intro request credentials endpoint first p policy scope live hbody hform hlt hopen hfirst
      hpolicy hend
    have hdraws : (p.upload t.config.chunkSize.toNat none).Draws Stream.rest
        t.config.chunkSize.toNat p.length.toNat p.stream :=
      Upload.draws_draw Upload.reads_readAtMost hpos p.length.toNat p.stream
    have hexact := hdraws.isExact hchunk
    obtain ⟨hbytes, -, hshort⟩ := hexact.short hlt
    obtain ⟨t', x, hrun, hexchanges, hcargo, hmetrics⟩ :=
      Flight.run_execute_of_short hopen hfirst hbody hform hshort rfl hend hpolicy scope live
    rw [Upload.size, hbytes] at hmetrics
    exact ⟨t', x, hrun, hexchanges, hcargo, hexact, hmetrics⟩

/-- Reads of a source that gives no more than so many bytes at once. -/
def readSlowly (most : Nat) (source : Bytes) (count : Nat) : Bytes × Bytes :=
  (source.take (min count most), source.drop (min count most))

/-- Such a source is read from its front. -/
theorem reads_readSlowly {most : Nat} (h : 0 < most) : Upload.Reads (readSlowly most) id where
  left_eq s n := (List.take_append_drop (min n most) s).symm
  length_le s n := by
    rw [readSlowly, List.length_take]
    omega
  ne_nil s n hn hs := by
    intro hnil
    rcases List.take_eq_nil_iff.1 hnil with hzero | hempty
    · omega
    · exact hs hempty

/-- A transport that sends chunks of three bytes. Its session never answers in time. -/
def silentTransport : Transport where
  config := { chunkSize := 3 }
  supply :=
    { clock := fun _ => .ok ⟨2024, 1, 1, 0, 0, 0, 0, some 0⟩
      share := fun _ => .zero false
      delivery := fun _ => { reply := .failure .timeout } }

/-- Four bytes, of a stream that does not move, which are announced as ten. -/
def dataAsTen : StreamPart where
  stream := { kind := .unseekable, content := Utf8.ofString "data" }
  length := 10

/-- A request that stores them. -/
def storingRequest : Request where
  operation := "Put"
  method := .put
  path := "/bucket/key"
  resource := "bucket/key"
  body := .stream dataAsTen

/-- Ten bytes are announced and four come, two at a time: the attempt tells this, not that its time
was over. A call that may be repeated twice makes one request when its stream is as short. -/
theorem slowData_is_told_short :
    ∃ first t' t'' x,
      Flight.signedAt storingRequest ⟨"id", "secret", none⟩ { url := "http://h", signature := .v2 }
        (silentTransport.supply.clock 0) = .ok first ∧
      silentTransport.sendFrom (readSlowly 2) first false 10 (Utf8.ofString "data") =
        (.error (.fault (.invalidArgument "size" (.int 10) "stream ended after 4 of 10 bytes")),
          [], t') ∧
      t'.metrics.bytesSent = 4 ∧ t'.metrics.timeoutErrors = 0 ∧
      (Flight.execute { maxRetries := 2 } .empty false (storingRequest.signed
          ⟨"id", "secret", none⟩ { url := "http://h", signature := .v2 })).run silentTransport =
        (.error (.fault (.invalidArgument "size" (.int 10) "stream ended after 4 of 10 bytes")),
          t'') ∧
      t''.journal.exchanges = [x] := by
  obtain ⟨first, hfirst⟩ : ∃ first, Flight.signedAt storingRequest ⟨"id", "secret", none⟩
      { url := "http://h", signature := .v2 } (silentTransport.supply.clock 0) = .ok first :=
    ⟨_, rfl⟩
  have hend : ∀ chunks, (silentTransport.supply.delivery 0).ReadsToEnd chunks := by
    intro chunks k hk
    cases hk
  obtain ⟨⟨u, -, hexact, hsends⟩, hcalls⟩ := upload_is_exact_or_told_short
    (reads_readSlowly Nat.two_pos) (t := silentTransport) (by decide) 10
    (Utf8.ofString "data")
  obtain ⟨a, s, t', hsend, hsent, -⟩ := hsends rfl first false
  obtain ⟨hbytes, hrest, hshort⟩ := hexact.short (by decide)
  obtain ⟨rfl, hmetrics⟩ := hsent.short _ hshort (hend _)
  obtain ⟨chunks, _, -, hall, -⟩ := hsent.yielded
  obtain rfl : s = [] := (hall (hend _)).2.trans hrest
  obtain ⟨t'', x, hrun, hexchanges, -⟩ := hcalls storingRequest ⟨"id", "secret", none⟩
    { url := "http://h", signature := .v2 } first dataAsTen { maxRetries := 2 } .empty false rfl rfl
    (by decide) rfl hfirst (by decide) (hend _)
  refine ⟨first, t', t'', x, hfirst, hsend, ?_, ?_, hrun, hexchanges⟩
  · rw [hmetrics, Upload.size, hbytes]
    rfl
  · rw [hmetrics]
    rfl

end CloudClient
