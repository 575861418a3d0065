import CloudClient.Proofs.Factory
import CloudClient.Proofs.Number.Arithmetic
import CloudClient.Proofs.Retry.Loop
import CloudClient.Proofs.Transport.Drawing
import CloudClient.Proofs.Uri.SentHost

/-!
# Accepted configurations

Main statements: which configurations are accepted, and what an accepted one satisfies, wherever it
comes from: timeouts are above zero unless they are no numbers at all, sizes, numbers of retries and
delays are in order, and both endpoints have a host, a scheme and a known signature. So the loops
that a factory of it sets up get somewhere: a call begins with an attempt, and an upload draws all
that there is to send.
-/

namespace CloudClient

/-! ## Endpoints -/

namespace Endpoint

variable {e : Endpoint}

/-- An endpoint that requests can be signed for and sent to. -/
structure IsDefined (e : Endpoint) : Prop where
  scheme : e.scheme = .ok "http" ∨ e.scheme = .ok "https"
  host : ∃ host, e.host = .ok host ∧ host ≠ ""
  signature : e.signature = .v2 ∨ e.signature = .v4

/-- A valid endpoint is defined. -/
theorem isDefined_of_validate (h : e.validate = .ok ()) : e.IsDefined := by
  obtain ⟨u, hread, hu, hsignature⟩ := exists_of_validate h
  obtain ⟨port, hport⟩ := hu.port
  refine ⟨scheme_of_validate h, ⟨_, host_eq_ok hread hport, ?_⟩, ?_⟩
  · intro hempty
    have hne : u.host.toList ≠ [] := by
      rw [ne_eq, String.toList_eq_nil_iff, ← String.isEmpty_iff, hu.host]
      exact Bool.false_ne_true
    have htext := toList_withPort u.scheme u.host port
    rw [hempty] at htext
    exact Uri.sentAuthority_ne_nil hne _ htext.symm
  · cases hversion : e.signature with
    | v2 => exact .inl rfl
    | v4 => exact .inr rfl
    | unknown name => exact absurd hversion (hsignature name)

end Endpoint

/-! ## Loops -/

/-- A call whose policy allows an attempt begins with one. -/
theorem RetryRules.exists_run_eq {m : Type → Type} [Monad m] {α : Type} (r : RetryRules α)
    (act : AttemptActions m α) (h : 0 ≤ r.policy.maxRetries) :
    ∃ next, r.run act = act.attempt 0 >>= next := by
  rw [run, if_neg (by omega)]
  cases r.policy.maxRetries.toNat with
  | zero => exact ⟨_, rfl⟩
  | succ left => exact ⟨_, rfl⟩

/-- Whatever is sent by such a policy is sent once at least. -/
def RetryPolicy.MakesAttempt (p : RetryPolicy) : Prop :=
  ∀ (m : Type → Type) [Monad m] (first : SignedRequest) (act : AttemptActions m Answer),
    ∃ next, (Flight.sendingRules p first).run act = act.attempt 0 >>= next

/-- A policy that allows an attempt makes one, and a request that is not repeated is sent as well.
-/
theorem RetryPolicy.makesAttempt {p : RetryPolicy} (h : 0 ≤ p.maxRetries) : p.MakesAttempt := by
  intro m _ first act
  apply RetryRules.exists_run_eq
  rw [Flight.sendingRules]
  dsimp only
  split
  · exact h
  · exact le_refl (0 : Int)

namespace Config

variable {c : Config}

/-! ## Checks -/

/-- **Which configurations are accepted.** -/
theorem validate_eq_ok_iff :
    c.validate = .ok () ↔
      c.storage.validate = .ok () ∧ c.queue.validate = .ok () ∧
      (c.transport.connectTimeout.IsPositive ∨ c.transport.connectTimeout = .notANumber) ∧
      (c.transport.requestTimeout.IsPositive ∨ c.transport.requestTimeout = .notANumber) ∧
      1 ≤ c.transport.poolSize ∧ 1 ≤ c.transport.chunkSize ∧ 0 ≤ c.retry.maxRetries ∧
      0 ≤ c.retry.baseDelay ∧ c.retry.baseDelay ≤ c.retry.maxDelay := by
  rw [← Binary64.leInt_zero_eq_false_iff, ← Binary64.leInt_zero_eq_false_iff]
  constructor
  · intro h
    obtain ⟨_, hstorage, h⟩ := exists_of_bind_eq_ok h
    obtain ⟨_, hqueue, h⟩ := exists_of_bind_eq_ok h
    obtain ⟨htimeouts, h⟩ := not_and_eq_ok_of_guard h
    obtain ⟨hpool, h⟩ := not_and_eq_ok_of_guard h
    obtain ⟨hchunk, h⟩ := not_and_eq_ok_of_guard h
    obtain ⟨hretries, h⟩ := not_and_eq_ok_of_guard h
    split at h
    · cases h
    · rename_i hdelays
      simp only [Bool.or_eq_true, decide_eq_true_eq, not_or, Bool.not_eq_true] at htimeouts hdelays
      exact ⟨hstorage, hqueue, htimeouts.1, htimeouts.2, by omega, by omega, by omega, by omega,
        by omega⟩
  · rintro ⟨hstorage, hqueue, hconnect, hrequest, hpool, hchunk, hretries, hbase, hcap⟩
    have hdelays : ¬(c.retry.baseDelay < 0 ∨ c.retry.maxDelay < c.retry.baseDelay) := by omega
    rw [validate, hstorage, hqueue]
    simp only [hconnect, hrequest, Bool.or_self, Bool.false_eq_true, if_false,
      if_neg (not_lt.2 hpool), if_neg (not_lt.2 hchunk), if_neg (not_lt.2 hretries),
      Bool.or_eq_true, decide_eq_true_eq, if_neg hdelays]
    rfl

/-- The delays of a valid configuration are in order. -/
theorem delays_of_validate (h : c.validate = .ok ()) :
    0 ≤ c.retry.baseDelay ∧ c.retry.baseDelay ≤ c.retry.maxDelay :=
  (validate_eq_ok_iff.1 h).2.2.2.2.2.2.2

/-- What the environment gives is valid. -/
theorem validate_of_fromEnvironment {env : Environment} (h : fromEnvironment env = .ok c) :
    c.validate = .ok () := by
  obtain ⟨c', -, h⟩ := exists_of_bind_eq_ok h
  obtain ⟨_, hvalid, h⟩ := exists_of_bind_eq_ok h
  obtain rfl := Except.ok.inj h
  exact hvalid

/-! ## Invariants -/

/-- The configuration passes its check, or an environment gives it. -/
def IsAccepted (c : Config) : Prop := c.validate = .ok () ∨ ∃ env, fromEnvironment env = .ok c

/-- What is promised of a configuration, as far as a timeout that is no number is not concerned. -/
structure IsSound (c : Config) : Prop where
  connectTimeout : c.transport.connectTimeout.IsPositive ∨ c.transport.connectTimeout = .notANumber
  requestTimeout : c.transport.requestTimeout.IsPositive ∨ c.transport.requestTimeout = .notANumber
  poolSize : 1 ≤ c.transport.poolSize
  chunkSize : 1 ≤ c.transport.chunkSize
  maxRetries : 0 ≤ c.retry.maxRetries
  baseDelay : 0 ≤ c.retry.baseDelay
  maxDelay : c.retry.baseDelay ≤ c.retry.maxDelay
  storage : c.storage.IsDefined
  queue : c.queue.IsDefined

/-- A valid configuration keeps what is promised. -/
theorem isSound_of_validate (h : c.validate = .ok ()) : c.IsSound := by
  obtain ⟨hstorage, hqueue, hconnect, hrequest, hpool, hchunk, hretries, hbase, hcap⟩ :=
    validate_eq_ok_iff.1 h
  exact ⟨hconnect, hrequest, hpool, hchunk, hretries, hbase, hcap,
    Endpoint.isDefined_of_validate hstorage, Endpoint.isDefined_of_validate hqueue⟩

/-- **Accepted configurations are sound but for timeouts that are no numbers**, and their factories
work: every call of their connections begins with an attempt, and an upload over their transport
draws what is there of the bytes to send in chunks of the given size. -/
theorem accepted_is_sound_but_for_undefined_timeouts (h : c.IsAccepted) :
    c.IsSound ∧ ∃ f, ConnectionFactory.make c = .ok f ∧ f.config = c ∧
      (∀ credentials connection, f.storageConnection credentials = .ok connection →
        connection.policy.MakesAttempt) ∧
      (∀ credentials connection, f.queueConnection credentials = .ok connection →
        connection.policy.MakesAttempt) ∧
      ∀ {σ : Type} (read : σ → Nat → Bytes × σ) (left : σ → Bytes), Upload.Reads read left →
        ∀ (supply : Supply) (count : Nat) (source : σ),
          (Upload.draw read (f.transport supply).config.chunkSize.toNat none count source).Draws
            left c.transport.chunkSize.toNat count source := by
  have hvalid : c.validate = .ok () := by
    rcases h with hvalid | ⟨env, henv⟩
    · exact hvalid
    · exact validate_of_fromEnvironment henv
  have hsound := isSound_of_validate hvalid
  have hattempt := RetryPolicy.makesAttempt (p := .ofConfig c.retry) hsound.maxRetries
  refine ⟨hsound, { config := c }, ?_, rfl, ?_, ?_, ?_⟩
  · rw [ConnectionFactory.make, hvalid]
  · intro credentials connection hconnection
    obtain ⟨_, -, hconnection⟩ := exists_of_bind_eq_ok hconnection
    obtain rfl := Except.ok.inj hconnection
    exact hattempt
  · intro credentials connection hconnection
    obtain ⟨_, -, hconnection⟩ := exists_of_bind_eq_ok hconnection
    obtain rfl := Except.ok.inj hconnection
    exact hattempt
  · intro σ read left hread supply count source
    have hpos : 0 < c.transport.chunkSize.toNat := by
      have := hsound.chunkSize
      omega
    exact Upload.draws_draw hread hpos count source

/-- An environment may give its numbers with blanks, signs and underscores: its configuration is
sound, and a stream is drawn by it as far as it is asked for. -/
theorem spelled_setting_is_sound :
    ∃ c, fromEnvironment (.ofList [("AWSREST_REQUEST_TIMEOUT_S", " +1_0e-1 "),
        ("AWSREST_POOL_SIZE", "+0_1"), ("AWSREST_MAX_RETRIES", "0"),
        ("AWSREST_S3_ENDPOINT", "HTTP://H:80/")]) = .ok c ∧
      c.IsSound ∧ c.storage.host = .ok "h" ∧ c.transport.requestTimeout.IsPositive ∧
      (Upload.draw Stream.readAtMost c.transport.chunkSize.toNat none 2
        { content := [1, 2, 3] }).chunks.flatten = [1, 2] := by
  have henv : fromEnvironment (.ofList [("AWSREST_REQUEST_TIMEOUT_S", " +1_0e-1 "),
      ("AWSREST_POOL_SIZE", "+0_1"), ("AWSREST_MAX_RETRIES", "0"),
      ("AWSREST_S3_ENDPOINT", "HTTP://H:80/")]) =
        .ok { storage := { url := "HTTP://H:80" },
              transport := { requestTimeout := .ofInt 1, poolSize := 1 }
              retry := { maxRetries := 0 } } := rfl
  obtain ⟨hsound, f, -, hconfig, -, -, hdraws⟩ :=
    accepted_is_sound_but_for_undefined_timeouts (.inr ⟨_, henv⟩)
  have hdraw := hdraws Stream.readAtMost Stream.rest Upload.reads_readAtMost
    { clock := fun _ => .error .undefinedSecond, share := fun _ => .zero false,
      delivery := fun _ => {} }
    2 { content := [1, 2, 3] }
  rw [ConnectionFactory.transport, hconfig] at hdraw
  refine ⟨_, henv, hsound, rfl, ?_, hdraw.bytes⟩
  exact (Binary64.leInt_zero_eq_false_iff.1 (by decide)).resolve_right (by decide)

/-- A timeout that is no number is accepted. -/
theorem undefined_timeout_is_accepted :
    ∃ c, fromEnvironment (.ofList [("AWSREST_CONNECT_TIMEOUT_S", "nan")]) = .ok c ∧
      c.validate = .ok () ∧
      c.transport.connectTimeout = .notANumber ∧ ¬c.transport.connectTimeout.IsPositive := by
  have henv : fromEnvironment (.ofList [("AWSREST_CONNECT_TIMEOUT_S", "nan")]) =
      .ok { transport := { connectTimeout := .notANumber } } := rfl
  refine ⟨_, henv, validate_of_fromEnvironment henv, rfl, ?_⟩
  rintro (hinfinite | ⟨v, hv, -⟩)
  · cases hinfinite
  · cases hv

end Config

end CloudClient
