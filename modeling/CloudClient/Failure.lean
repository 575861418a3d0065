import CloudClient.Calendar.DateTime
import CloudClient.Encoding.Binary
import CloudClient.Fault
import CloudClient.Number.Binary64
import CloudClient.Number.Integer
import CloudClient.Stream
import CloudClient.Uri

/-!
# Failures

Most failed calls end in a fault. A few inputs make a call fail before it can say so in a fault: a
locator that cannot be taken apart, a date out of range, a number that cannot be read. Such a
failure ends the call as it is.
-/

namespace CloudClient

/-- Arguments that do not fit the call they are given to. -/
inductive ArgumentError where
  /-- A name is taken by an argument that the call has already. -/
  | repeated (call name : String)
  /-- The call has no argument of the name. -/
  | unexpected (call name : String)
  /-- Arguments that the call needs are not given; it may take them by their names alone. -/
  | missing (call : String) (names : List String) (byName : Bool)
  deriving DecidableEq, Repr

namespace ArgumentError

/-- Quoted names in a row, with a word before the last. -/
def enumeration : List String → String
  | [] => ""
  | [a] => s!"'{a}'"
  | [a, b] => s!"'{a}' and '{b}'"
  | [a, b, c] => s!"'{a}', '{b}', and '{c}'"
  | a :: r => s!"'{a}', {enumeration r}"

/-- The words of the error. -/
def message : ArgumentError → String
  | repeated call name => s!"{call}() got multiple values for argument '{name}'"
  | unexpected call name => s!"{call}() got an unexpected keyword argument '{name}'"
  | missing call names byName =>
    let way := if byName then "keyword-only" else "positional"
    let noun := if names.length = 1 then "argument" else "arguments"
    s!"{call}() missing {names.length} required {way} {noun}: {enumeration names}"

end ArgumentError

/-- The arguments that a call takes by their names: those that it needs, and others. The call itself
goes by a name that no argument may have. -/
structure Parameters where
  call : String
  receiver : String := "self"
  required : List String
  optional : List String := []
  byName : Bool := false
  deriving DecidableEq, Repr, Inhabited

/-- What is wrong with a name that is given to a call: it is taken, or the call does not know it. -/
def Parameters.refusal? (p : Parameters) (name : String) : Option ArgumentError :=
  if name = p.receiver then some (.repeated p.call name)
  else if p.required.contains name || p.optional.contains name then none
  else some (.unexpected p.call name)

/-- The names of arguments fit the call: none of them is refused, and none is missing. -/
def Parameters.check (p : Parameters) (given : List String) : Except ArgumentError Unit :=
  match given.findSome? p.refusal? with
  | some e => .error e
  | none =>
    match p.required.filter fun name => !given.contains name with
    | [] => .ok ()
    | names => .error (.missing p.call names p.byName)

/-- All that can end a call other than its result. -/
inductive Failure where
  | fault (fault : Fault)
  | uri (error : UriError)
  | date (error : DateError)
  | integer (error : IntegerError)
  | hex (error : Hex.HexError)
  | power (error : Binary64.PowerError)
  /-- An integer is too large to become a floating-point number. -/
  | floatRange
  /-- The quotient of two integers is too large to be a floating-point number. -/
  | quotientRange
  /-- No such request method exists. -/
  | unknownMethod (name : String)
  /-- The body of a request cannot be sent twice. -/
  | notReplayable
  /-- A stream does not do what is asked of it. -/
  | stream (failure : StreamFailure)
  /-- A document is not well-formed XML. -/
  | malformedXml
  /-- A policy allows not even a first attempt. -/
  | noAttempt
  /-- The value of an outcome that has none was asked for. -/
  | unwrapped (refusal : String)
  | argument (error : ArgumentError)
  /-- A failure from outside: of the session, or of a function that the caller gave. -/
  | foreign (cause : Cause)
  deriving Inhabited

namespace Failure

/-- What a name stands for, unless it stands for nothing. -/
def named {α : Type} (name : String) : Option α → Except Failure α
  | some x => .ok x
  | none => .error (.foreign ⟨"KeyError", Text.quoted name⟩)

/-- The text of a failure. -/
def message : Failure → String
  | fault f => f.message
  | uri e => e.message
  | date e => e.message
  | integer e => e.message
  | hex e => e.message
  | power e => e.message
  | floatRange => "int too large to convert to float"
  | quotientRange => "integer division result too large for a float"
  | unknownMethod name => s!"{Text.quoted name} is not a valid HTTPMethod"
  | notReplayable => "stream body is not replayable"
  | stream e => e.cause.text
  | malformedXml => "xml syntax error"
  | noAttempt => "unreachable"
  | unwrapped refusal => s!"Called unwrap() on Err: {refusal}"
  | argument e => e.message
  | foreign c => c.text

end Failure

end CloudClient
