import CloudClient.Text.Printable

/-!
# Quoted text

Messages show a text between quotation marks. The marks are single unless the text holds a
single mark and no double one. Inside, the mark and the backslash get a backslash, line feed,
carriage return and tab are written as letters, and any other character that is not printable is
written by its code point.
-/

namespace CloudClient.Text

/-- The apostrophe, which is the usual quotation mark. -/
def singleMark : Char := '\x27'

/-- The double quotation mark. -/
def doubleMark : Char := '\x22'

/-- The lower-case hexadecimal digit of a number below sixteen. -/
def hexDigit (n : Nat) : Char :=
  if n < 10 then Char.ofNat (0x30 + n) else Char.ofNat (0x61 + (n - 10))

/-- The last `width` hexadecimal digits of a number. -/
def hexDigits : Nat → Nat → List Char
  | 0, _ => []
  | width + 1, n => hexDigits width (n / 16) ++ [hexDigit (n % 16)]

/-- The written form of one character inside quotation marks. -/
def quoteChar (mark c : Char) : List Char :=
  if c = mark || c = '\\' then ['\\', c]
  else if c = '\n' then ['\\', 'n']
  else if c = '\r' then ['\\', 'r']
  else if c = '\t' then ['\\', 't']
  else if isPrintable c then [c]
  else if c.toNat < 0x100 then '\\' :: 'x' :: hexDigits 2 c.toNat
  else if c.toNat < 0x10000 then '\\' :: 'u' :: hexDigits 4 c.toNat
  else '\\' :: 'U' :: hexDigits 8 c.toNat

/-- The quotation mark a text is shown with. -/
def markFor (s : List Char) : Char :=
  if s.contains singleMark && !s.contains doubleMark then doubleMark else singleMark

/-- A text between quotation marks. -/
def quote (s : List Char) : List Char :=
  let mark := markFor s
  mark :: s.flatMap (quoteChar mark) ++ [mark]

/-- A string between quotation marks. -/
def quoted (s : String) : String :=
  String.ofList (quote s.toList)

/-- The first hundred characters of a string. -/
def shortened (s : String) : String :=
  String.ofList (s.toList.take 100)

end CloudClient.Text
