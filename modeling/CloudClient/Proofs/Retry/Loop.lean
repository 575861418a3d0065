import CloudClient.Retry.Attempts

/-!
# Steps of the attempt loop

The loop is the same for every monad in which attempts are made. What it does is told here for any
interpretation of such a monad as steps between states: an attempt ends the call, or it is followed
by a wait and the next attempt with one attempt fewer to go. What each of these steps keeps holds at
the end of every call, also of one whose waits cannot be computed.
-/

namespace CloudClient

/-- An interpretation of the programs of a monad as functions from a state to a result and a state.
-/
structure Interpretation (m : Type → Type) [Monad m] (σ : Type) where
  run : {β : Type} → m β → σ → β × σ
  run_pure : ∀ {β : Type} (b : β) (s : σ), run (pure b) s = (b, s)
  run_bind : ∀ {β γ : Type} (x : m β) (f : β → m γ) (s : σ),
    run (x >>= f) s = run (f (run x s).1) (run x s).2
  run_map : ∀ {β γ : Type} (f : β → γ) (x : m β) (s : σ),
    run (f <$> x) s = (f (run x s).1, (run x s).2)

/-- After a step that succeeds a program goes on with its value. -/
theorem Interpretation.run_bind_ok {m : Type → Type} [Monad m] {σ ε β γ : Type}
    (I : Interpretation m σ) {x : ExceptT ε m β} {f : β → ExceptT ε m γ} {b : β} {s s' : σ}
    (h : I.run x.run s = (.ok b, s')) : I.run (x >>= f).run s = I.run (f b).run s' := by
  rw [ExceptT.run_bind, I.run_bind, h]

/-- Programs over a state mean what they are. -/
def Interpretation.state (σ : Type) : Interpretation (StateM σ) σ where
  run x s := x s
  run_pure _ _ := rfl
  run_bind _ _ _ := rfl
  run_map _ _ _ := rfl

namespace AttemptStats

variable {α : Type}

/-- The stats after an attempt that ends the call. -/
def tally (s : AttemptStats) : Except Failure α → AttemptStats
  | .error (.fault f) =>
    { s with total := s.total + 1, failed := s.failed + 1, lastError := some f.message }
  | _ => { s with total := s.total + 1 }

/-- The stats after an attempt that is followed by another: a value counts as failed as well. -/
def tallyAgain (s : AttemptStats) : Except Failure α → AttemptStats
  | .ok _ => { s with total := s.total + 1, failed := s.failed + 1 }
  | o => s.tally o

/-- The stats after a wait. -/
def addDelay (s : AttemptStats) (ms : Binary64) : AttemptStats :=
  { s with totalDelay := s.totalDelay.add ms }

/-- Every attempt is counted. -/
theorem total_tally (s : AttemptStats) (o : Except Failure α) :
    (s.tally o).total = s.total + 1 := by
  rcases o with (_ | _ | _) | _ <;> rfl

/-- An attempt that is followed by another is counted as well. -/
theorem total_tallyAgain (s : AttemptStats) (o : Except Failure α) :
    (s.tallyAgain o).total = s.total + 1 := by
  cases o with
  | ok v => rfl
  | error e => exact s.total_tally (.error e)

end AttemptStats

namespace RetryRules

variable {α : Type} (r : RetryRules α)

/-! ## Verdicts -/

/-- An outcome that ends the call whatever number of attempts is left. -/
def isFinal : Except Failure α → Bool
  | .ok v => !r.retriesValue v
  | .error (.fault f) => !r.retriesFault f
  | .error _ => true

/-- Why an attempt is followed by another. -/
def reasonOf : Except Failure α → String
  | .ok _ => "retryable response"
  | .error (.fault f) => f.code.name
  | .error _ => ""

/-- What the caller gets of the outcome of the last attempt: a fault that deserves another attempt
tells the number of attempts when there was more than one. -/
def told (attempt : Nat) : Except Failure α → Except Failure α
  | .error (.fault f) =>
    if r.retriesFault f && attempt != 0 then
      .error (.fault (.retryExhausted r.operation (attempt + 1 : Nat) f))
    else .error (.fault f)
  | o => o

/-- A final outcome is told as it is. -/
theorem told_of_isFinal {o : Except Failure α} (h : r.isFinal o = true) (attempt : Nat) :
    r.told attempt o = o := by
  cases o with
  | ok v => rfl
  | error e =>
    cases e with
    | fault f =>
      have hf : r.retriesFault f = false := by simpa [isFinal] using h
      rw [told, hf]
      rfl
    | _ => rfl

/-- A final outcome ends the call at every attempt. -/
theorem judge_of_isFinal {o : Except Failure α} (h : r.isFinal o = true) (attempt : Nat)
    (isLast : Bool) (s : AttemptStats) :
    r.judge attempt isLast { s with total := s.total + 1 } o = (s.tally o, .final o) := by
  cases o with
  | ok v =>
    have hv : r.retriesValue v = false := by simpa [isFinal] using h
    simp [judge, hv, AttemptStats.tally]
  | error e =>
    cases e with
    | fault f =>
      have hf : r.retriesFault f = false := by simpa [isFinal] using h
      simp [judge, hf, AttemptStats.tally]
    | _ => rfl

/-- The last attempt ends the call with what is told of its outcome. -/
theorem judge_last {s : AttemptStats} {attempt : Nat} (hs : s.total = attempt)
    (o : Except Failure α) :
    r.judge attempt true { s with total := s.total + 1 } o =
      (s.tally o, .final (r.told attempt o)) := by
  cases hfinal : r.isFinal o with
  | true => rw [r.judge_of_isFinal hfinal, r.told_of_isFinal hfinal]
  | false =>
    cases o with
    | ok v => rfl
    | error e =>
      cases e with
      | fault f =>
        have hf : r.retriesFault f = true := by simpa [isFinal] using hfinal
        by_cases hzero : attempt = 0
        · simp [judge, told, hf, hzero, AttemptStats.tally]
        · simp [judge, told, hf, hzero, hs, AttemptStats.tally]
      | _ => cases hfinal

/-- An outcome that is not final is followed by another attempt while attempts are left. -/
theorem judge_again {o : Except Failure α} (h : r.isFinal o = false) (attempt : Nat)
    (s : AttemptStats) :
    r.judge attempt false { s with total := s.total + 1 } o =
      (s.tallyAgain o, .again (reasonOf o)) := by
  cases o with
  | ok v =>
    have hv : r.retriesValue v = true := by simpa [isFinal] using h
    simp [judge, hv, AttemptStats.tallyAgain, reasonOf]
  | error e =>
    cases e with
    | fault f =>
      have hf : r.retriesFault f = true := by simpa [isFinal] using h
      simp [judge, hf, AttemptStats.tallyAgain, AttemptStats.tally, reasonOf]
    | _ => cases h

/-! ## Waits -/

section Steps

variable {r} {m : Type → Type} [Monad m] {σ : Type} (I : Interpretation m σ)
  (act : AttemptActions m α)

/-- The state after a random share is drawn, when the policy asks for one, and the share. -/
def drawn (r : RetryRules α) (s : σ) : Binary64 × σ :=
  if r.policy.jitter then I.run act.share s else (.zero false, s)

/-- The state after the line in the log and the wait. -/
def paused (r : RetryRules α) (attempt : Nat) (reason : String) (ms seconds : Binary64) (s : σ) :
    σ :=
  (I.run (act.pause seconds) (I.run (act.warn (r.retryLine attempt reason ms)) s).2).2

/-- A wait that can be computed is drawn. -/
theorem run_drawDelay {attempt : Nat} {s : σ} {d : Delay}
    (hd : r.policy.delay attempt (drawn I act r s).1 = .ok d) :
    I.run (r.drawDelay act attempt).run s = (.ok d, (drawn I act r s).2) := by
  obtain ⟨longest, hlongest⟩ : ∃ longest, r.policy.longestDelay attempt = .ok longest := by
    cases h : r.policy.longestDelay attempt with
    | ok longest => exact ⟨longest, rfl⟩
    | error e =>
      rw [RetryPolicy.delay, h] at hd
      cases hd
  rw [drawDelay, hlongest]
  dsimp only
  split
  · have hsample : I.run (liftM act.share : ExceptT Failure m Binary64).run s =
        (.ok (drawn I act r s).1, (drawn I act r s).2) := by
      rw [drawn, if_pos ‹_›]
      exact I.run_map _ _ _
    rw [I.run_bind_ok hsample, hd]
    exact I.run_pure _ _
  · have hsample : I.run (pure (.zero false) : ExceptT Failure m Binary64).run s =
        (.ok (drawn I act r s).1, (drawn I act r s).2) := by
      rw [drawn, if_neg ‹_›]
      exact I.run_pure _ _
    rw [I.run_bind_ok hsample, hd]
    exact I.run_pure _ _

/-- A wait that can be computed is made, and counted. -/
theorem run_wait {attempt : Nat} {s : σ} {d : Delay} {ms seconds : Binary64}
    (hd : r.policy.delay attempt (drawn I act r s).1 = .ok d) (hms : d.toFloat = .ok ms)
    (hseconds : d.seconds = .ok seconds) (reason : String) (stats : AttemptStats) :
    I.run (r.wait act attempt reason stats) s =
      ((stats.addDelay ms, .ok ()),
        paused I act r attempt reason ms seconds (drawn I act r s).2) := by
  rw [wait, I.run_bind, run_drawDelay I act hd]
  simp only [hms, hseconds]
  rw [I.run_bind, I.run_bind, I.run_pure]
  rfl

/-! ## Attempts -/

/-- The last attempt that is allowed. -/
theorem run_runFrom_zero {stats : AttemptStats} {attempt : Nat} (h : stats.total = attempt)
    (s : σ) :
    I.run (r.runFrom act 0 attempt stats) s =
      ((stats.tally (I.run (act.attempt attempt) s).1,
        r.told attempt (I.run (act.attempt attempt) s).1), (I.run (act.attempt attempt) s).2) := by
  rw [runFrom, I.run_bind]
  dsimp only
  rw [r.judge_last h]
  exact I.run_pure _ _

/-- A final outcome ends the call, whatever number of attempts is left. -/
theorem run_runFrom_of_isFinal {stats : AttemptStats} {attempt : Nat} {s : σ} (left : Nat)
    (h : r.isFinal (I.run (act.attempt attempt) s).1 = true) :
    I.run (r.runFrom act left attempt stats) s =
      ((stats.tally (I.run (act.attempt attempt) s).1, (I.run (act.attempt attempt) s).1),
        (I.run (act.attempt attempt) s).2) := by
  cases left with
  | zero =>
    rw [runFrom, I.run_bind]
    dsimp only
    rw [r.judge_of_isFinal h]
    exact I.run_pure _ _
  | succ left =>
    rw [runFrom, I.run_bind]
    dsimp only
    rw [r.judge_of_isFinal h]
    exact I.run_pure _ _

/-- An outcome that is not final is followed by a wait and the next attempt. -/
theorem run_runFrom_succ {stats stats' : AttemptStats} {attempt : Nat} {s s' : σ} (left : Nat)
    (h : r.isFinal (I.run (act.attempt attempt) s).1 = false)
    (hwait : I.run (r.wait act attempt (reasonOf (I.run (act.attempt attempt) s).1)
      (stats.tallyAgain (I.run (act.attempt attempt) s).1)) (I.run (act.attempt attempt) s).2 =
        ((stats', .ok ()), s')) :
    I.run (r.runFrom act (left + 1) attempt stats) s =
      I.run (r.runFrom act left (attempt + 1) stats') s' := by
  rw [runFrom, I.run_bind]
  dsimp only
  rw [r.judge_again h]
  dsimp only
  rw [I.run_bind, hwait]

/-! ## Invariants -/

/-- **What holds before every attempt.** Let a statement about the number of attempts made, the
stats and the state pass from each attempt that is not final over the wait to the next attempt. Then
it holds at the attempt with which the loop is left, and that is a final one or the last one
allowed. -/
theorem run_runFrom_of_invariant {m : Nat} (Inv : Nat → AttemptStats → σ → Prop)
    (htotal : ∀ n stats s, Inv n stats s → stats.total = n)
    (hnext : ∀ n stats s, n < m → Inv n stats s → r.isFinal (I.run (act.attempt n) s).1 = false →
      ∃ stats' s', I.run (r.wait act n (reasonOf (I.run (act.attempt n) s).1)
        (stats.tallyAgain (I.run (act.attempt n) s).1)) (I.run (act.attempt n) s).2 =
          ((stats', .ok ()), s') ∧ Inv (n + 1) stats' s') (left : Nat) :
    ∀ (n : Nat) (stats : AttemptStats) (s : σ), n + left = m → Inv n stats s →
    ∃ k ≤ m, ∃ stats' s', Inv k stats' s' ∧
      (r.isFinal (I.run (act.attempt k) s').1 = true ∨ k = m) ∧
      I.run (r.runFrom act left n stats) s =
        ((stats'.tally (I.run (act.attempt k) s').1, r.told k (I.run (act.attempt k) s').1),
          (I.run (act.attempt k) s').2) := by
  induction left with
  | zero =>
    intro n stats s hm hinv
    exact ⟨n, by omega, stats, s, hinv, .inr (by omega),
      run_runFrom_zero I act (htotal _ _ _ hinv) s⟩
  | succ left ih =>
    intro n stats s hm hinv
    cases hfinal : r.isFinal (I.run (act.attempt n) s).1 with
    | true =>
      refine ⟨n, by omega, stats, s, hinv, .inl hfinal, ?_⟩
      rw [run_runFrom_of_isFinal I act (left + 1) hfinal, r.told_of_isFinal hfinal]
    | false =>
      obtain ⟨stats', s', hwait, hinv'⟩ := hnext n stats s (by omega) hinv hfinal
      rw [run_runFrom_succ I act left hfinal hwait]
      exact ih (n + 1) stats' s' (by omega) hinv'

/-- A statement that holds at the start of a call, and passes to each next attempt, holds at the
attempt with which the call ends. -/
theorem run_run_of_invariant {m : Nat} (hm : r.policy.maxRetries = m)
    (Inv : Nat → AttemptStats → σ → Prop) (htotal : ∀ n stats s, Inv n stats s → stats.total = n)
    (hnext : ∀ n stats s, n < m → Inv n stats s → r.isFinal (I.run (act.attempt n) s).1 = false →
      ∃ stats' s', I.run (r.wait act n (reasonOf (I.run (act.attempt n) s).1)
        (stats.tallyAgain (I.run (act.attempt n) s).1)) (I.run (act.attempt n) s).2 =
          ((stats', .ok ()), s') ∧ Inv (n + 1) stats' s') {s : σ} (hinit : Inv 0 {} s) :
    ∃ k ≤ m, ∃ stats' s', Inv k stats' s' ∧
      (r.isFinal (I.run (act.attempt k) s').1 = true ∨ k = m) ∧
      I.run (r.run act) s =
        ((stats'.tally (I.run (act.attempt k) s').1, r.told k (I.run (act.attempt k) s').1),
          (I.run (act.attempt k) s').2) := by
  have hrun : r.run act = r.runFrom act m 0 {} := by
    rw [RetryRules.run, if_neg (by omega), hm]
    rfl
  rw [hrun]
  exact run_runFrom_of_invariant I act Inv htotal hnext m 0 {} s (Nat.zero_add m) hinit

/-! ## What every step keeps -/

/-- A statement about the number of attempts made and the state that passes over every attempt, and
that random shares, lines in the log and waits leave as it is. -/
structure Kept (Inv : Nat → σ → Prop) : Prop where
  attempt : ∀ {n s}, Inv n s → Inv (n + 1) (I.run (act.attempt n) s).2
  share : ∀ {n s}, Inv n s → Inv n (I.run act.share s).2
  warn : ∀ {n s} line, Inv n s → Inv n (I.run (act.warn line) s).2
  pause : ∀ {n s} seconds, Inv n s → Inv n (I.run (act.pause seconds) s).2

section Kept

variable {I act} {Inv : Nat → σ → Prop} (h : Kept I act Inv)

include h

/-- A wait is drawn without harm, also when it cannot be computed. -/
theorem Kept.drawDelay {n : Nat} {s : σ} (hs : Inv n s) (attempt : Nat) :
    Inv n (I.run (r.drawDelay act attempt).run s).2 := by
  -- Only the share touches the state: what is made of it is pure.
  have hbind : ∀ (x : ExceptT Failure m Binary64) (f : Binary64 → ExceptT Failure m Delay),
      Inv n (I.run x.run s).2 → (∀ b, ∃ o, (f b).run = pure o) →
        Inv n (I.run (x >>= f).run s).2 := by
    intro x f hx hf
    rw [ExceptT.run_bind, I.run_bind]
    split
    · rename_i b _
      obtain ⟨o, ho⟩ := hf b
      rw [ho, I.run_pure]
      exact hx
    · rw [I.run_pure]
      exact hx
  rw [RetryRules.drawDelay]
  split
  · show Inv n (I.run (pure _) s).2
    rw [I.run_pure]
    exact hs
  · dsimp only
    split
    · refine hbind _ _ ?_ fun sample => ?_
      · show Inv n (I.run (Except.ok <$> act.share) s).2
        rw [I.run_map]
        exact h.share hs
      · cases r.policy.delay attempt sample with
        | error e => exact ⟨.error e, rfl⟩
        | ok d => exact ⟨.ok d, rfl⟩
    · refine hbind _ _ ?_ fun sample => ?_
      · show Inv n (I.run (pure _) s).2
        rw [I.run_pure]
        exact hs
      · cases r.policy.delay attempt sample with
        | error e => exact ⟨.error e, rfl⟩
        | ok d => exact ⟨.ok d, rfl⟩

/-- A wait is made without harm, and so is one that cannot be computed. -/
theorem Kept.wait {n : Nat} {s : σ} (hs : Inv n s) (attempt : Nat) (reason : String)
    (stats : AttemptStats) : Inv n (I.run (r.wait act attempt reason stats) s).2 := by
  have hdrawn := h.drawDelay (r := r) hs attempt
  rw [RetryRules.wait, I.run_bind]
  generalize I.run _ s = drawn at hdrawn ⊢
  obtain ⟨d, s'⟩ := drawn
  dsimp only
  split
  · rw [I.run_pure]
    exact hdrawn
  · split
    · rw [I.run_pure]
      exact hdrawn
    · rw [I.run_pure]
      exact hdrawn
    · rw [I.run_bind, I.run_bind, I.run_pure]
      exact h.pause _ (h.warn _ hdrawn)

/-- The attempts that are left are made without harm, however the loop is left; there is at least
one. -/
theorem Kept.runFrom (left : Nat) :
    ∀ (n : Nat) (stats : AttemptStats) (s : σ), Inv n s →
      ∃ k, n < k ∧ Inv k (I.run (r.runFrom act left n stats) s).2 := by
  induction left with
  | zero =>
    intro n stats s hs
    refine ⟨n + 1, Nat.lt_succ_self n, ?_⟩
    rw [RetryRules.runFrom, I.run_bind]
    dsimp only
    split
    · rw [I.run_pure]
      exact h.attempt hs
    · rw [I.run_pure]
      exact h.attempt hs
  | succ left ih =>
    intro n stats s hs
    rw [RetryRules.runFrom, I.run_bind]
    dsimp only
    split
    · refine ⟨n + 1, Nat.lt_succ_self n, ?_⟩
      rw [I.run_pure]
      exact h.attempt hs
    · rename_i stats' reason _
      have hwait := h.wait (r := r) (h.attempt hs) n reason stats'
      rw [I.run_bind]
      generalize I.run (r.wait act n reason stats') _ = waited at hwait ⊢
      obtain ⟨⟨stats'', outcome⟩, s'⟩ := waited
      cases outcome with
      | error e =>
        refine ⟨n + 1, Nat.lt_succ_self n, ?_⟩
        dsimp only
        rw [I.run_pure]
        exact hwait
      | ok _ =>
        obtain ⟨k, hk, hend⟩ := ih (n + 1) stats'' s' hwait
        exact ⟨k, by omega, hend⟩

/-- **What every step keeps holds at the end of a call**, whatever its policy and its outcomes are.
A policy that allows an attempt makes one. -/
theorem Kept.run {s : σ} (hs : Inv 0 s) :
    ∃ k, (0 ≤ r.policy.maxRetries → 0 < k) ∧ Inv k (I.run (r.run act) s).2 := by
  rw [RetryRules.run]
  split
  · -- No attempt is allowed at all.
    refine ⟨0, by omega, ?_⟩
    rw [I.run_pure]
    exact hs
  · obtain ⟨k, hk, hend⟩ := h.runFrom r.policy.maxRetries.toNat 0 {} s hs
    exact ⟨k, fun _ => hk, hend⟩

end Kept

end Steps

end RetryRules

end CloudClient
