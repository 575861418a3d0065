import CloudClient.Number.Integer
import CloudClient.Number.Binary64

/-!
# Double-precision numbers in text

A number is written as an optional sign, digits of any script with an optional point, and an
optional exponent, or as one of the words for infinity and for a value that is no number. Blanks
may stand around it and single underscores between digits.
-/

namespace CloudClient

/-- The text is no number. -/
structure NumberError where
  text : String
  deriving DecidableEq, Repr

/-- The words of the error. -/
def NumberError.message (e : NumberError) : String :=
  "could not convert string to float: " ++ Text.quoted e.text

namespace Number

/-- Drops underscores that stand between two digits, and refuses any other. -/
def dropMarks? (afterDigit : Bool) : List Char → Option (List Char)
  | [] => some []
  | '_' :: r =>
    match r with
    | d :: _ => if afterDigit && Text.isAsciiDigit d then dropMarks? false r else none
    | [] => none
  | c :: r => (dropMarks? (Text.isAsciiDigit c) r).map (c :: ·)

/-- A digit of any script as the ASCII digit of its value. -/
def plainDigit (c : Char) : Char :=
  match Text.decimalValue? c with
  | some v => Char.ofNat (0x30 + v)
  | none => c

/-- Reads an exponent, which may be absent. -/
def readExponent? : List Char → Option Int
  | [] => some 0
  | c :: r =>
    if c == 'e' || c == 'E' then
      let (negative, ds) := cutSign r
      if ds.isEmpty || !ds.all Text.isAsciiDigit then none
      else
        let n := ofDigits (digitValues ds)
        some (if negative then -(n : Int) else n)
    else none

/-- Reads digits with an optional point and exponent. -/
def readDecimal? (negative : Bool) (s : List Char) : Option Binary64 :=
  let whole := s.takeWhile Text.isAsciiDigit
  let rest := s.dropWhile Text.isAsciiDigit
  let (places, rest) :=
    match rest with
    | '.' :: r => (r.takeWhile Text.isAsciiDigit, r.dropWhile Text.isAsciiDigit)
    | r => ([], r)
  if whole.isEmpty && places.isEmpty then none
  else
    (readExponent? rest).map fun e =>
      Binary64.ofDecimal negative (ofDigits (digitValues (whole ++ places))) (e - places.length)

/-- An ASCII letter in lower case. -/
def lowerAscii (c : Char) : Char :=
  if 0x41 ≤ c.toNat && c.toNat ≤ 0x5A then Char.ofNat (c.toNat + 0x20) else c

/-- Reads a number. -/
def readNumber? (s : List Char) : Option Binary64 := do
  let s := Text.dropEndWhile isNumberBlank (s.dropWhile isNumberBlank)
  let s ← dropMarks? false (s.map plainDigit)
  let (negative, body) := cutSign s
  let word := String.ofList (body.map lowerAscii)
  if word == "inf" || word == "infinity" then some (.infinite negative)
  else if word == "nan" then some .notANumber
  else readDecimal? negative body

end Number

/-- Reads a double-precision number from a string. -/
def readNumber (s : String) : Except NumberError Binary64 :=
  match Number.readNumber? s.toList with
  | some x => .ok x
  | none => .error ⟨s⟩

end CloudClient
