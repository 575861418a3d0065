import CloudClient.Failure

/-!
# Instants that stamp faults

A fault is stamped with the nanosecond at which it was made, counted from the epoch. The stamp
orders and correlates records of faults and takes no part in signing.
-/

namespace CloudClient

/-- An instant in nanoseconds since the epoch. -/
structure Timestamp where
  nanos : Int
  deriving DecidableEq, Repr, Inhabited

namespace Timestamp

/-- A second has a thousand million nanoseconds. -/
def nanosPerSecond : Nat := 1000000000

/-- The instant in seconds is the correctly rounded quotient, which must be finite. -/
def seconds (t : Timestamp) : Except Failure Binary64 :=
  match Binary64.quotient t.nanos nanosPerSecond with
  | .infinite _ => .error .quotientRange
  | x => .ok x

/-- The text of an instant names its nanoseconds. -/
def text (t : Timestamp) : String := s!"Timestamp({t.nanos}ns)"

/-- Instants are ordered as their nanoseconds. -/
def before (s t : Timestamp) : Bool := decide (s.nanos < t.nanos)

/-- One instant is not after another. -/
def notAfter (s t : Timestamp) : Bool := decide (s.nanos ≤ t.nanos)

/-- One instant is not after another when it is before it or the same. -/
theorem notAfter_iff (s t : Timestamp) : s.notAfter t = true ↔ s.before t = true ∨ s = t := by
  cases s; cases t; simp [notAfter, before]; omega

end Timestamp

end CloudClient
