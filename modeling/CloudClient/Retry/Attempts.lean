import CloudClient.Retry.Policy

/-!
# Attempts

A call is tried again while its failures, or its values, deserve it and attempts are left. The
last outcome stands: a value as it is, and a fault told with the number of attempts when there was
more than one.
-/

namespace CloudClient

/-- What is counted while a call is tried. -/
structure AttemptStats where
  total : Nat := 0
  failed : Nat := 0
  totalDelay : Binary64 := .zero false
  lastError : Option String := none
  deriving DecidableEq, Inhabited

/-- The number of attempts after the first. -/
def AttemptStats.retries (s : AttemptStats) : Nat := s.total - 1

/-- When a call is tried again. -/
structure RetryRules (α : Type) where
  operation : String
  policy : RetryPolicy
  retriesFault : Fault → Bool := fun _ => false
  retriesValue : α → Bool := fun _ => false

/-- What an attempt leads to: the end of the call, or another attempt for a reason. -/
inductive Verdict (α : Type) where
  | final (outcome : Except Failure α)
  | again (reason : String)
  deriving Inhabited

/-- What the attempts of a call do to the world outside: one try, a random share of a wait, a line
in the log, and a wait in seconds. -/
structure AttemptActions (m : Type → Type) (α : Type) where
  attempt : Nat → m (Except Failure α)
  share : m Binary64
  warn : String → m Unit
  pause : Binary64 → m Unit

namespace RetryRules

variable {α : Type}

/-- The verdict on an attempt, of which it is known how many attempts were made before it and
whether it is the last one. -/
def judge (r : RetryRules α) (attempt : Nat) (isLast : Bool) (stats : AttemptStats) :
    Except Failure α → AttemptStats × Verdict α
  | .ok v =>
    if isLast || !r.retriesValue v then (stats, .final (.ok v))
    else ({ stats with failed := stats.failed + 1 }, .again "retryable response")
  | .error (.fault f) =>
    let stats := { stats with failed := stats.failed + 1, lastError := some f.message }
    if !r.retriesFault f then (stats, .final (.error (.fault f)))
    else if !isLast then (stats, .again f.code.name)
    else if attempt = 0 then (stats, .final (.error (.fault f)))
    else (stats, .final (.error (.fault (.retryExhausted r.operation stats.total f))))
  | .error e => (stats, .final (.error e))

/-- The line in the log before a wait. -/
def retryLine (r : RetryRules α) (attempt : Nat) (reason : String) (delay : Binary64) : String :=
  s!"{r.operation}: attempt {attempt + 1} failed ({reason}), " ++
    s!"retrying in {delay.fixedText 0}ms"

variable {m : Type → Type} [Monad m]

/-- The wait after an attempt; a random share is drawn only when the policy asks for one. -/
def drawDelay (r : RetryRules α) (act : AttemptActions m α) (attempt : Nat) :
    ExceptT Failure m Delay := do
  match r.policy.longestDelay attempt with
  | .error e => throw e
  | .ok _ =>
    let sample ← if r.policy.jitter then act.share else pure (.zero false)
    match r.policy.delay attempt sample with
    | .error e => throw e
    | .ok d => return d

/-- Waits after an attempt that failed for a reason, and counts the wait. -/
def wait (r : RetryRules α) (act : AttemptActions m α) (attempt : Nat) (reason : String)
    (stats : AttemptStats) : m (AttemptStats × Except Failure Unit) := do
  match ← (r.drawDelay act attempt).run with
  | .error e => return (stats, .error e)
  | .ok d =>
    match d.toFloat, d.seconds with
    | .error e, _ => return (stats, .error e)
    | .ok _, .error e => return (stats, .error e)
    | .ok ms, .ok seconds =>
      act.warn (r.retryLine attempt reason ms)
      act.pause seconds
      return ({ stats with totalDelay := stats.totalDelay.add ms }, .ok ())

/-- Tries a call after a number of attempts, with so many more attempts allowed. -/
def runFrom (r : RetryRules α) (act : AttemptActions m α) :
    Nat → Nat → AttemptStats → m (AttemptStats × Except Failure α)
  | left, attempt, stats => do
    let stats := { stats with total := stats.total + 1 }
    let outcome ← act.attempt attempt
    match left with
    | 0 =>
      match r.judge attempt true stats outcome with
      | (stats, .final outcome) => return (stats, outcome)
      | (stats, .again _) => return (stats, outcome)
    | left + 1 =>
      match r.judge attempt false stats outcome with
      | (stats, .final outcome) => return (stats, outcome)
      | (stats, .again reason) =>
        match ← r.wait act attempt reason stats with
        | (stats, .error e) => return (stats, .error e)
        | (stats, .ok ()) => runFrom r act left (attempt + 1) stats

/-- Tries a call as often as its policy allows; with a negative number of retries no attempt is
made at all. -/
def run (r : RetryRules α) (act : AttemptActions m α) : m (AttemptStats × Except Failure α) :=
  if r.policy.maxRetries < 0 then pure ({}, .error .noAttempt)
  else runFrom r act r.policy.maxRetries.toNat 0 {}

end RetryRules

end CloudClient
