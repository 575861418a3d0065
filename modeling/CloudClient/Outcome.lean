import CloudClient.Failure
import CloudClient.Fault.Report

/-!
# Outcomes

The outcome of a call is a value or a refusal. Where a caller would rather have the call fail, the
value is taken out of the outcome and a refusal becomes a failure again.
-/

namespace CloudClient

/-- What an outcome without a value holds: a fault, or a plain value that says what is wrong. -/
inductive Refusal where
  | fault (fault : Fault)
  | plain (value : Json)
  deriving Inhabited

/-- A value or a refusal. -/
abbrev Outcome := Except Refusal Json

namespace Outcome

/-- The outcome holds a value. -/
def isOk (o : Outcome) : Bool := o.toBool

/-- The value; a fault fails as itself, and another refusal as a failure that tells it. -/
def unwrap : Outcome → Except Failure Json
  | .ok v => .ok v
  | .error (.fault f) => .error (.fault f)
  | .error (.plain v) => .error (.unwrapped v.display)

/-- The value, or a default. -/
def getD (default : Json) : Outcome → Json
  | .ok v => v
  | .error _ => default

/-- The outcome with its value changed. -/
def map (f : Json → Except Failure Json) : Outcome → Except Failure Outcome
  | .ok v => do return .ok (← f v)
  | .error e => .ok (.error e)

/-- The outcome that follows from a value; a refusal stays. -/
def flatMap (f : Json → Outcome) (o : Outcome) : Outcome := o.bind f

/-- The outcomes are alike; a fault is only like itself. -/
def same : Outcome → Outcome → Bool
  | .ok v, .ok w => v.same w
  | .error (.plain v), .error (.plain w) => v.same w
  | _, _ => false

/-- The listing of an outcome; a fault in it is listed under a stamp. -/
def listing (stamp : Stamp) : Outcome → String
  | .ok v => s!"Ok({v.quoted})"
  | .error (.plain v) => s!"Err({v.quoted})"
  | .error (.fault f) => s!"Err({f.listing stamp})"

/-- A value that can be taken out is the one that a default would give way to. -/
theorem getD_of_unwrap_eq_ok {o : Outcome} {v : Json} (h : o.unwrap = .ok v) (default : Json) :
    o.getD default = v := by
  match o with
  | .ok w => simpa [unwrap, getD] using h
  | .error (.fault _) => simp [unwrap] at h
  | .error (.plain _) => simp [unwrap] at h

end Outcome

end CloudClient
