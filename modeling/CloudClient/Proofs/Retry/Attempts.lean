import CloudClient.Proofs.Retry.Delay
import CloudClient.Proofs.Retry.Loop

/-!
# The attempts of a call

A call whose attempts behave in any given way is tried until an outcome is final or no attempt is
left. This module says in full what comes of it: which attempts are made, which waits lie between
them, what the caller gets, and what the stats count.
-/

namespace CloudClient

/-! ## Recorded attempts -/

/-- What an observer sees of the attempts of a call. -/
inductive AttemptEvent where
  | tried (attempt : Nat)
  | drew (share : Binary64)
  | warned (line : String)
  | paused (seconds : Binary64)
  deriving DecidableEq

namespace AttemptEvent

/-- The number of an attempt that is made. -/
def attempt? : AttemptEvent → Option Nat
  | tried n => some n
  | _ => none

/-- The length of a wait. -/
def pause? : AttemptEvent → Option Binary64
  | paused s => some s
  | _ => none

/-- A random share is drawn. -/
def isDraw : AttemptEvent → Bool
  | drew _ => true
  | _ => false

end AttemptEvent

namespace RetryRules

variable {α : Type}

/-- Attempts that behave in a given way, each by its number, and random shares in the order in which
they are drawn. -/
def recording (behaviour : Nat → Except Failure α) (shares : Nat → Binary64) :
    AttemptActions (StateM (List AttemptEvent)) α where
  attempt n := fun log => (behaviour n, log ++ [.tried n])
  share := fun log =>
    (shares (log.countP AttemptEvent.isDraw),
      log ++ [.drew (shares (log.countP AttemptEvent.isDraw))])
  warn line := fun log => ((), log ++ [.warned line])
  pause seconds := fun log => ((), log ++ [.paused seconds])

/-- What is seen of an attempt that is followed by another. -/
def round (r : RetryRules α) (behaviour : Nat → Except Failure α)
    (shares ms seconds : Nat → Binary64) (i : Nat) : List AttemptEvent :=
  [.tried i] ++ (if r.policy.jitter then [.drew (shares i)] else []) ++
    [.warned (r.retryLine i (reasonOf (behaviour i)) (ms i)), .paused (seconds i)]

variable {r : RetryRules α} {behaviour : Nat → Except Failure α}
  {shares ms seconds : Nat → Binary64} {delays : Nat → Delay}

/-- With jitter a share is drawn after each attempt that is followed by another. -/
theorem countP_isDraw_round (i : Nat) (h : r.policy.jitter = true) :
    (r.round behaviour shares ms seconds i).countP AttemptEvent.isDraw = 1 := by
  rw [round, if_pos h]
  rfl

/-- A recorded attempt that is not final, and the wait after it. -/
theorem run_wait_recording {i : Nat} {log : List AttemptEvent}
    (hdraws : r.policy.jitter = true → log.countP AttemptEvent.isDraw = i)
    (hd : r.policy.delay i (shares i) = .ok (delays i)) (hms : (delays i).toFloat = .ok (ms i))
    (hseconds : (delays i).seconds = .ok (seconds i)) (stats : AttemptStats) :
    (Interpretation.state _).run
        (r.wait (recording behaviour shares) i (reasonOf (behaviour i)) stats)
        (log ++ [.tried i]) =
      ((stats.addDelay (ms i), .ok ()), log ++ r.round behaviour shares ms seconds i) := by
  have hlog : (log ++ [AttemptEvent.tried i]).countP AttemptEvent.isDraw =
      log.countP AttemptEvent.isDraw := by
    simp [List.countP_append, AttemptEvent.isDraw]
  cases hjitter : r.policy.jitter with
  | true =>
    have hdrawn : drawn (Interpretation.state _) (recording behaviour shares) r
        (log ++ [AttemptEvent.tried i]) = (shares i, log ++ [.tried i] ++ [.drew (shares i)]) := by
      rw [drawn, if_pos hjitter]
      show (shares _, _ ++ [AttemptEvent.drew (shares _)]) = _
      rw [hlog, hdraws hjitter]
    rw [run_wait _ _ (hdrawn ▸ hd) hms hseconds, hdrawn, round, if_pos hjitter]
    simp only [paused, recording, Interpretation.state, List.append_assoc]
    rfl
  | false =>
    have hdrawn : drawn (Interpretation.state _) (recording behaviour shares) r
        (log ++ [AttemptEvent.tried i]) = (.zero false, log ++ [.tried i]) := by
      rw [drawn, if_neg (by simp [hjitter])]
    have hzero : r.policy.delay i (.zero false) = .ok (delays i) := by
      rw [← hd]
      simp only [RetryPolicy.delay, hjitter]
      rfl
    rw [run_wait _ _ (hdrawn ▸ hzero) hms hseconds, hdrawn, round, if_neg (by simp [hjitter])]
    simp only [paused, recording, Interpretation.state, List.append_assoc]
    rfl

/-! ## Counted attempts -/

/-- The message of an outcome that is a fault. -/
def faultMessage? : Except Failure α → Option String
  | .error (.fault f) => some f.message
  | _ => none

/-- The message of the last fault among the first attempts. -/
def lastMessage? (behaviour : Nat → Except Failure α) (attempts : Nat) : Option String :=
  (List.range attempts).reverse.findSome? fun i => faultMessage? (behaviour i)

/-- The last attempt has the say. -/
theorem lastMessage?_succ (n : Nat) :
    lastMessage? behaviour (n + 1) =
      (faultMessage? (behaviour n)).or (lastMessage? behaviour n) := by
  rw [lastMessage?, List.range_succ, List.reverse_append, List.reverse_singleton,
    List.singleton_append, List.findSome?_cons, lastMessage?]
  cases faultMessage? (behaviour n) <;> rfl

/-- The sum of the first waits, added in their order. -/
def totalOf (ms : Nat → Binary64) (n : Nat) : Binary64 :=
  (List.range n).foldl (fun total i => total.add (ms i)) (.zero false)

/-- What an attempt that ends the call adds to the stats. -/
theorem tally_eq (s : AttemptStats) (o : Except Failure α) :
    s.tally o =
      { s with
        total := s.total + 1
        failed := s.failed + (faultMessage? o).toList.length
        lastError := (faultMessage? o).or s.lastError } := by
  rcases o with (_ | _ | _) | _ <;> rfl

/-- What an attempt that is followed by another adds to the stats. -/
theorem tallyAgain_eq (s : AttemptStats) {o : Except Failure α} (h : r.isFinal o = false) :
    s.tallyAgain o =
      { s with
        total := s.total + 1
        failed := s.failed + 1
        lastError := (faultMessage? o).or s.lastError } := by
  rcases o with (_ | _ | _) | _
  all_goals first | rfl | cases h

/-- The stats after attempts that are all followed by others. -/
def tallied (behaviour : Nat → Except Failure α) (ms : Nat → Binary64) (n : Nat) :
    AttemptStats where
  total := n
  failed := n
  totalDelay := totalOf ms n
  lastError := lastMessage? behaviour n

/-- One more attempt that is followed by another. -/
theorem tallied_succ {n : Nat} (h : r.isFinal (behaviour n) = false) :
    ((tallied behaviour ms n).tallyAgain (behaviour n)).addDelay (ms n) =
      tallied behaviour ms (n + 1) := by
  rw [tallyAgain_eq _ h, tallied, tallied, lastMessage?_succ, totalOf, totalOf, List.range_succ,
    List.foldl_append]
  rfl

/-- What holds of a recorded call before an attempt: all attempts before were followed by others. -/
structure Underway (r : RetryRules α) (behaviour : Nat → Except Failure α)
    (shares ms seconds : Nat → Binary64) (n : Nat) (stats : AttemptStats)
    (log : List AttemptEvent) : Prop where
  again : ∀ i < n, r.isFinal (behaviour i) = false
  stats_eq : stats = tallied behaviour ms n
  log_eq : log = (List.range n).flatMap (r.round behaviour shares ms seconds)
  draws : r.policy.jitter = true → log.countP AttemptEvent.isDraw = n

/-- The next attempt of a recorded call. -/
theorem Underway.next {n : Nat} {stats : AttemptStats} {log : List AttemptEvent}
    (h : Underway r behaviour shares ms seconds n stats log)
    (hagain : r.isFinal (behaviour n) = false) :
    Underway r behaviour shares ms seconds (n + 1)
      ((stats.tallyAgain (behaviour n)).addDelay (ms n))
      (log ++ r.round behaviour shares ms seconds n) where
  again := by
    intro i hi
    rcases Nat.lt_succ_iff_lt_or_eq.1 hi with hlt | rfl
    · exact h.again i hlt
    · exact hagain
  stats_eq := by rw [h.stats_eq, tallied_succ hagain]
  log_eq := by
    rw [h.log_eq, List.range_succ, List.flatMap_append, List.flatMap_singleton]
  draws := by
    intro hjitter
    rw [List.countP_append, h.draws hjitter, countP_isDraw_round n hjitter]

/-! ## Whole calls -/

/-- The first attempts are tried in their order, each once. -/
theorem filterMap_attempt?_rounds (n : Nat) :
    ((List.range n).flatMap (r.round behaviour shares ms seconds)).filterMap
      AttemptEvent.attempt? = List.range n := by
  rw [List.filterMap_flatMap]
  have hone :
      ∀ i, (r.round behaviour shares ms seconds i).filterMap AttemptEvent.attempt? = [i] := by
    intro i
    unfold round
    split <;> rfl
  simp only [hone, List.flatMap_singleton']

/-- After each of the first attempts there is one wait. -/
theorem filterMap_pause?_rounds (n : Nat) :
    ((List.range n).flatMap (r.round behaviour shares ms seconds)).filterMap
      AttemptEvent.pause? = (List.range n).map seconds := by
  rw [List.filterMap_flatMap]
  have hone : ∀ i,
      (r.round behaviour shares ms seconds i).filterMap AttemptEvent.pause? = [seconds i] := by
    intro i
    unfold round
    split <;> rfl
  simp only [hone, List.map_eq_flatMap]

/-- A fault of the last attempt that deserves another is told with the number of attempts. -/
theorem told_fault {f : Fault} (hf : r.retriesFault f = true) (m : Nat) :
    r.told (m + 1) (.error (.fault f) : Except Failure α) =
      .error (.fault (.retryExhausted r.operation ((m + 1 : Nat) + 1 : Nat) f)) := by
  rw [told, hf]
  rfl

/-- **What a call does and what comes of it.** A policy with `m` retries, whose waits after the
attempts before the last can be computed, tries a call up to the first final outcome, or `m + 1`
times. -/
theorem run_ends_at_first_final (r : RetryRules α) (m : Nat) (hm : r.policy.maxRetries = m)
    (behaviour : Nat → Except Failure α) (shares ms : Nat → Binary64) (delays : Nat → Delay)
    (hd : ∀ i < m, r.policy.delay i (shares i) = .ok (delays i))
    (hms : ∀ i < m, (delays i).toFloat = .ok (ms i)) :
    ∃ n ≤ m, ∃ seconds stats outcome events,
      (r.run (recording behaviour shares)).run [] = ((stats, outcome), events) ∧
      -- the last attempt is the first one that is final
      (∀ i < n, r.isFinal (behaviour i) = false) ∧
      (r.isFinal (behaviour n) = true ∨ n = m) ∧
      -- attempts and waits, and all that is seen of them
      events.filterMap AttemptEvent.attempt? = List.range (n + 1) ∧
      (∀ i < m, (delays i).seconds = .ok (seconds i)) ∧
      events.filterMap AttemptEvent.pause? = (List.range n).map seconds ∧
      events = (List.range n).flatMap (r.round behaviour shares ms seconds) ++ [.tried n] ∧
      -- the result
      (∀ v, behaviour n = .ok v → outcome = .ok v) ∧
      (∀ f, behaviour n = .error (.fault f) → r.retriesFault f = false →
        outcome = .error (.fault f)) ∧
      (∀ f, behaviour n = .error (.fault f) → r.retriesFault f = true →
        n = m ∧ (m = 0 → outcome = .error (.fault f)) ∧
        (0 < m → ∃ g, outcome = .error (.fault g) ∧ g.family = .transport ∧ g.code = f.code ∧
          g.cause = f.cause ∧ g.context = f.context.put "attempts" (.int (m + 1)))) ∧
      (∀ e, behaviour n = .error e → (∀ f, e ≠ .fault f) → outcome = .error e) ∧
      -- the stats
      stats.total = n + 1 ∧
      stats.failed = n + (faultMessage? (behaviour n)).toList.length ∧
      stats.totalDelay = totalOf ms n ∧
      stats.lastError = lastMessage? behaviour (n + 1) := by
  have hsome : ∀ i, ∃ s, i < m → (delays i).seconds = .ok s := by
    intro i
    by_cases hi : i < m
    · obtain ⟨s, hs⟩ := Delay.exists_seconds (hms i hi)
      exact ⟨s, fun _ => hs⟩
    · exact ⟨.zero false, fun h => absurd h hi⟩
  obtain ⟨seconds, hseconds⟩ := Classical.axiomOfChoice hsome
  obtain ⟨n, hn, _, _, ⟨hagain, rfl, rfl, -⟩, hstop, hrun⟩ :=
    run_run_of_invariant (Interpretation.state _) (recording behaviour shares) hm
      (Underway r behaviour shares ms seconds)
      (fun _ _ _ h => by rw [h.stats_eq, tallied])
      (fun n stats log hn h hagain =>
        ⟨_, _, run_wait_recording h.draws (hd n hn) (hms n hn) (hseconds n hn) _, h.next hagain⟩)
      (s := []) ⟨by simp, rfl, rfl, fun _ => rfl⟩
  have hseen : (Interpretation.state _).run ((recording behaviour shares).attempt n)
      ((List.range n).flatMap (r.round behaviour shares ms seconds)) = (behaviour n, _) := rfl
  rw [hseen] at hstop hrun
  dsimp only at hstop hrun
  rw [tally_eq] at hrun
  refine ⟨n, hn, seconds, _, _, _, hrun, hagain, hstop, ?_, hseconds, ?_, rfl, ?_, ?_, ?_, ?_, rfl,
    rfl, rfl, ?_⟩
  · rw [List.filterMap_append, filterMap_attempt?_rounds, List.range_succ]
    rfl
  · rw [List.filterMap_append, filterMap_pause?_rounds]
    exact List.append_nil _
  · intro v hv
    rw [hv]
    rfl
  · intro f hf hrejected
    rw [hf, told, hrejected]
    rfl
  · intro f hf hretried
    have hlast : n = m := by
      apply hstop.resolve_left
      rw [hf, isFinal, hretried]
      simp
    subst hlast
    refine ⟨rfl, ?_, ?_⟩
    · intro hzero
      rw [hf, told, hzero]
      simp
    · intro hpos
      obtain ⟨k, rfl⟩ : ∃ k, n = k + 1 := ⟨n - 1, by omega⟩
      rw [hf, told_fault hretried]
      exact ⟨_, rfl, rfl, rfl, rfl, rfl⟩
  · intro e he hother
    rw [he]
    cases e with
    | fault f => exact absurd rfl (hother f)
    | _ => rfl
  · rw [lastMessage?_succ]
    rfl

/-- A call whose every attempt times out is tried twice when one retry is allowed, and its fault
tells so. -/
theorem run_gives_up_after_two :
    ∃ stats g events,
      (({ operation := "Get", policy := { maxRetries := 1, jitter := false },
          retriesFault := fun f => f.code == .timeout : RetryRules Nat }).run
        (recording (fun _ => .error (.fault (.timedOut "Get" "http://h/" (.ofInt 30) none)))
          fun _ => .zero false)).run [] = ((stats, .error (.fault g)), events) ∧
      g.code = .timeout ∧ stats.total = 2 ∧
      events.filterMap AttemptEvent.attempt? = [0, 1] := by
  obtain ⟨n, hn, seconds, stats, outcome, events, hrun, -, hstop, hattempts, -, -, -, -, -, hfault,
      -, htotal, -⟩ :=
    run_ends_at_first_final
      { operation := "Get", policy := { maxRetries := 1, jitter := false },
        retriesFault := fun f => f.code == .timeout : RetryRules Nat } 1 rfl
      (fun _ => .error (.fault (.timedOut "Get" "http://h/" (.ofInt 30) none)))
      (fun _ => .zero false) (fun _ => .ofInt 100) (fun _ => .rounded (.ofInt 100)) (by
        intro i hi
        obtain rfl : i = 0 := by omega
        rfl)
      (fun _ _ => rfl)
  obtain ⟨rfl, -, hwrapped⟩ := hfault _ rfl rfl
  obtain ⟨g, houtcome, -, hcode, -⟩ := hwrapped (by decide)
  exact ⟨stats, g, events, by rw [hrun, houtcome], hcode, htotal, hattempts⟩

end RetryRules

end CloudClient
