import CloudClient.Text.Blank
import CloudClient.Text.Case
import CloudClient.Text.Utf8

/-!
# Responses

A response is what a service sent: the status, the headers and the body. Headers may repeat, and
their names are compared without regard to case.
-/

namespace CloudClient

/-- The headers of a response in the order in which they came. -/
abbrev ResponseHeaders := List (String × String)

namespace ResponseHeaders

/-- The value of the first header of a name. -/
def first? (h : ResponseHeaders) (name : String) : Option String :=
  (h.find? fun p => Text.lowered p.1 == Text.lowered name).map (·.2)

end ResponseHeaders

/-- A response. A body that is still to be read is not in it. -/
structure Response where
  status : Int
  reason : String := ""
  headers : ResponseHeaders := []
  body : Bytes := []
  isLive : Bool := false
  deriving DecidableEq, Repr, Inhabited

namespace Response

/-- The service did what was asked. -/
def isOk (r : Response) : Bool := decide (200 ≤ r.status) && decide (r.status < 300)

/-- The id by which the service knows the request. -/
def requestId (r : Response) : Option String := r.headers.first? "x-amz-request-id"

/-! ## The code of an error document -/

/-- A blank of ASCII. -/
def isBlankByte (b : UInt8) : Bool := (0x9 ≤ b && b ≤ 0xD) || b == 0x20

/-- The bytes of a run that is no blank and no tag. -/
def isCodeByte (b : UInt8) : Bool := !isBlankByte b && b != 0x3C

/-- The start tag of the code. -/
def codeStart : Bytes := Utf8.ofString "<Code>"

/-- The end tag of the code. -/
def codeEnd : Bytes := Utf8.ofString "</Code>"

/-- The word that fills an element up to its end tag. -/
def wordBeforeEnd? (s : Bytes) : Option Bytes :=
  let s := s.dropWhile isBlankByte
  let word := s.takeWhile isCodeByte
  if !word.isEmpty && codeEnd.isPrefixOf ((s.dropWhile isCodeByte).dropWhile isBlankByte) then
    some word
  else none

/-- The word in the first code element that holds a single word. -/
def findCode? : Bytes → Option Bytes
  | [] => none
  | b :: r =>
    if codeStart.isPrefixOf (b :: r) then
      match wordBeforeEnd? ((b :: r).drop codeStart.length) with
      | some w => some w
      | none => findCode? r
    else findCode? r

/-- The code of an error document, found without reading the whole document. -/
def errorCode (r : Response) : Option String :=
  (findCode? r.body).map fun w => String.ofList (Utf8.decodeLossy w)

/-! ## Retries -/

/-- The statuses after which the same request may succeed. -/
def retryableStatuses : List Int := [500, 502, 503, 504]

/-- The codes after which the same request may succeed. -/
def retryableCodes : List String :=
  ["InternalError", "ServiceUnavailable", "SlowDown", "RequestTimeout"]

/-- The same request may succeed when it is made again. -/
def isRetryable (r : Response) : Bool :=
  retryableStatuses.contains r.status ||
    (decide (400 ≤ r.status) && r.errorCode.any retryableCodes.contains)

end Response

end CloudClient
