import CloudClient.Config
import CloudClient.Failure

/-!
# Backoff

Before a request is sent again its caller waits. The wait grows as a power of the number of the
attempt up to a cap, and may be shortened at random so that callers do not return all at once.
-/

namespace CloudClient

/-- The number of retries and the bounds of the waits, in milliseconds. -/
structure RetryPolicy where
  maxRetries : Int := 3
  baseDelay : Int := 100
  maxDelay : Int := 10000
  exponentialBase : Binary64 := .ofInt 2
  jitter : Bool := true
  deriving DecidableEq, Repr

/-- A wait in milliseconds: the cap is a whole number, any other wait is a rounded one. -/
inductive Delay where
  | whole (n : Int)
  | rounded (x : Binary64)
  deriving DecidableEq, Repr, Inhabited

/-- An integer as a floating-point number; one that is too large has none. -/
def floatOfInt (n : Int) : Except Failure Binary64 :=
  match Binary64.ofInt n with
  | .infinite _ => .error .floatRange
  | x => .ok x

namespace Delay

/-- The wait as a floating-point number. -/
def toFloat : Delay → Except Failure Binary64
  | whole n => floatOfInt n
  | rounded x => .ok x

/-- The wait in seconds. -/
def seconds : Delay → Except Failure Binary64
  | whole n =>
    match Binary64.quotient n 1000 with
    | .infinite _ => .error .floatRange
    | x => .ok x
  | rounded x => .ok (x.divNat 1000)

end Delay

namespace RetryPolicy

/-- No second attempt is made. -/
def single : RetryPolicy := { maxRetries := 0 }

/-- The policy of a configuration. -/
def ofConfig (c : RetryConfig) : RetryPolicy :=
  { maxRetries := c.maxRetries, baseDelay := c.baseDelay, maxDelay := c.maxDelay,
    jitter := c.jitter }

/-- The longest wait after an attempt: the base times a power, or the cap when that is not
less. -/
def longestDelay (p : RetryPolicy) (attempt : Int) : Except Failure Delay := do
  let _ ← floatOfInt attempt
  let power ← (p.exponentialBase.pow attempt).mapError .power
  let grown := (← floatOfInt p.baseDelay).mul power
  return if grown.ltInt p.maxDelay then .rounded grown else .whole p.maxDelay

/-- The wait after an attempt. With jitter it is the share `sample` of the longest wait. -/
def delay (p : RetryPolicy) (attempt : Int) (sample : Binary64) : Except Failure Delay := do
  let longest ← p.longestDelay attempt
  if p.jitter then
    return .rounded ((Binary64.zero false).add ((← longest.toFloat).mul sample))
  else return longest

end RetryPolicy

end CloudClient
