import CloudClient.Text.Utf8
import CloudClient.Text.Split
import CloudClient.Encoding.Binary

/-!
# Percent-encoding

A URL holds unreserved characters as they are and every other byte of a text's UTF-8 form as a
percent sign and two upper-case hexadecimal digits. A caller may name further ASCII characters to
be kept. Decoding turns each triplet back into its byte.
-/

namespace CloudClient.Percent

/-- The bytes that are never encoded: letters, digits, hyphen, low line, full stop and tilde. -/
def isUnreserved (b : UInt8) : Bool :=
  (0x41 ≤ b && b ≤ 0x5A) || (0x61 ≤ b && b ≤ 0x7A) || (0x30 ≤ b && b ≤ 0x39)
    || b == 0x2D || b == 0x5F || b == 0x2E || b == 0x7E

/-- The upper-case hexadecimal digit of a number below sixteen. -/
def hexDigit (n : Nat) : Char :=
  if n < 10 then Char.ofNat (0x30 + n) else Char.ofNat (0x41 + (n - 10))

/-- The byte is unreserved or one of the ASCII characters to be kept. -/
def isKept (safe : List Char) (b : UInt8) : Bool :=
  isUnreserved b || (b < 0x80 && safe.contains (Char.ofNat b.toNat))

/-- The encoded form of one byte. -/
def encodeByte (safe : List Char) (b : UInt8) : List Char :=
  if isKept safe b then [Char.ofNat b.toNat]
  else ['%', hexDigit (b.toNat / 16), hexDigit (b.toNat % 16)]

/-- The encoded form of a text. -/
def encode (safe : List Char) (s : List Char) : List Char :=
  (Utf8.encode s).flatMap (encodeByte safe)

/-- A concatenation is encoded part by part. -/
theorem encode_append (safe s t : List Char) :
    encode safe (s ++ t) = encode safe s ++ encode safe t := by
  simp [encode]

/-- The bytes of an encoded text: a triplet gives its byte, any other character its own bytes. -/
def decodeBytes : List Char → Bytes
  | [] => []
  | [c] => Utf8.encode [c]
  | [c, d] => Utf8.encode [c, d]
  | c :: d :: e :: r =>
    if c = '%' then
      match Hex.digitValue? d, Hex.digitValue? e with
      | some x, some y => UInt8.ofNat (16 * x + y) :: decodeBytes r
      | _, _ => Utf8.encode [c] ++ decodeBytes (d :: e :: r)
    else Utf8.encode [c] ++ decodeBytes (d :: e :: r)

/-- The text that an encoded text stands for, when its bytes are UTF-8. -/
def decode? (s : List Char) : Option (List Char) := Utf8.decode? (decodeBytes s)

/-- A string in the form it takes as a query key or value. -/
def component (s : String) : String := String.ofList (encode [] s.toList)

/-- A string in the form it takes as a path: slashes are kept. -/
def path (s : String) : String := String.ofList (encode ['/'] s.toList)

end CloudClient.Percent
