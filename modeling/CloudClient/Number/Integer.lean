import CloudClient.Text.Blank
import CloudClient.Text.CharClass
import CloudClient.Text.Quoted

/-!
# Integers in text

An integer is written as an optional sign and decimal digits of any script, with single
underscores allowed between digits and blanks allowed at both ends. A text of more than 4300
digits is refused, so that a hostile size field cannot cost more than a bounded amount of work.
-/

namespace CloudClient

/-- Why a text is no integer. -/
inductive IntegerError where
  /-- The text does not have the form of an integer. -/
  | malformed (text : String)
  /-- The text has more digits than are read. -/
  | tooLong (digits : Nat)
  deriving DecidableEq, Repr

namespace IntegerError

/-- The words of the error; a long text is shown up to its two-hundredth character. -/
def message : IntegerError → String
  | malformed text =>
    "invalid literal for int() with base 10: " ++
      String.ofList ((Text.quote text.toList).take 200)
  | tooLong digits =>
    s!"Exceeds the limit (4300 digits) for integer string conversion: value has {digits} digits; "
      ++ "use sys.set_int_max_str_digits() to increase the limit"

end IntegerError

namespace Number

/-- The blanks that may stand around a number: all but the information separators. -/
def isNumberBlank (c : Char) : Bool :=
  Text.isBlank c && !(0x1C ≤ c.toNat && c.toNat ≤ 0x1F)

/-- The largest number of digits that is read. -/
def maxDigits : Nat := 4300

/-- A digit of any script or an underscore. -/
def isDigitOrMark (c : Char) : Bool :=
  (Text.decimalValue? c).isSome || c == '_'

/-- Every underscore stands between two digits; `afterDigit` says that a digit stands before. -/
def marksSeparate (afterDigit : Bool) : List Char → Bool
  | [] => afterDigit
  | c :: r =>
    if c == '_' then afterDigit && marksSeparate false r
    else marksSeparate true r

/-- The values of the digits in a text. -/
def digitValues (s : List Char) : List Nat :=
  s.filterMap Text.decimalValue?

/-- The number a list of digit values denotes. -/
def ofDigits (ds : List Nat) : Nat :=
  ds.foldl (fun n d => 10 * n + d) 0

/-- A leading sign, and what stands behind it. -/
def cutSign : List Char → Bool × List Char
  | '-' :: r => (true, r)
  | '+' :: r => (false, r)
  | s => (false, s)

/-- Reads an integer. -/
def readInt (s : List Char) : Except IntegerError Int :=
  let (negative, body) := cutSign (s.dropWhile isNumberBlank)
  let run := body.takeWhile isDigitOrMark
  let rest := body.dropWhile isDigitOrMark
  let digits := digitValues run
  if !marksSeparate false run then .error (.malformed (String.ofList s))
  else if maxDigits < digits.length then .error (.tooLong digits.length)
  else if rest.all isNumberBlank then
    let n := ofDigits digits
    .ok (if negative then -(n : Int) else n)
  else .error (.malformed (String.ofList s))

end Number

/-- Reads an integer from a string. -/
def readInt (s : String) : Except IntegerError Int :=
  Number.readInt s.toList

end CloudClient
