import CloudClient.Text.Quoted
import CloudClient.Text.Utf8

/-!
# Bytes as text

Digests and wire data are written as two lower-case hexadecimal digits a byte. They are read with
digits of either case and with blanks between bytes. Signatures of the second version are written
in base 64: three bytes become four characters of six bits, and a last group of fewer bytes is
filled up with equals signs. Main statement: the hexadecimal text of `n` bytes has `2 * n`
characters.
-/

namespace CloudClient

/-! ## Hexadecimal digits -/

namespace Hex

/-- The two digits of a byte. -/
def encodeByte (b : UInt8) : List Char :=
  [Text.hexDigit (b.toNat / 16), Text.hexDigit (b.toNat % 16)]

/-- The hexadecimal characters of data. -/
def encode (s : Bytes) : List Char := s.flatMap encodeByte

/-- The hexadecimal text of data. -/
def ofBytes (s : Bytes) : String := String.ofList (encode s)

/-- The value of a hexadecimal digit in either case. -/
def digitValue? (c : Char) : Option Nat :=
  let n := c.toNat
  if 0x30 ≤ n && n ≤ 0x39 then some (n - 0x30)
  else if 0x41 ≤ n && n ≤ 0x46 then some (n - 0x41 + 10)
  else if 0x61 ≤ n && n ≤ 0x66 then some (n - 0x61 + 10)
  else none

/-- Where a text stops being hexadecimal. -/
structure HexError where
  position : Nat
  deriving DecidableEq, Repr

/-- The words of the error. -/
def HexError.message (e : HexError) : String :=
  s!"non-hexadecimal number found in fromhex() arg at position {e.position}"

/-- A character that may stand between bytes. -/
def isBlank (c : Char) : Bool := c = ' ' || 0x9 ≤ c.toNat && c.toNat ≤ 0xD

/-- The data that hexadecimal characters from a position on denote. -/
def decodeFrom (position : Nat) : List Char → Except HexError Bytes
  | [] => .ok []
  | a :: r =>
    if isBlank a then decodeFrom (position + 1) r
    else
      match digitValue? a with
      | none => .error ⟨position⟩
      | some m =>
        match r with
        | [] => .error ⟨position + 1⟩
        | b :: r =>
          match digitValue? b with
          | none => .error ⟨position + 1⟩
          | some n => (decodeFrom (position + 2) r).map (UInt8.ofNat (16 * m + n) :: ·)

/-- The data that a hexadecimal text denotes; a character outside ASCII is refused before any
other. -/
def decode (s : String) : Except HexError Bytes :=
  match s.toList.findIdx? (0x80 ≤ ·.toNat) with
  | some i => .error ⟨i⟩
  | none => decodeFrom 0 s.toList

/-- The text of some bytes has two characters for each. -/
theorem length_encode (s : Bytes) : (encode s).length = 2 * s.length := by
  induction s with
  | nil => rfl
  | cons b r ih =>
    have h : encode (b :: r) = encodeByte b ++ encode r := rfl
    simp only [h, List.length_append, encodeByte, List.length_cons, List.length_nil, ih]
    omega

end Hex

/-! ## Base 64 -/

namespace Base64

/-- The character of a six-bit number. -/
def digit (n : Nat) : Char :=
  if n < 26 then Char.ofNat (0x41 + n)
  else if n < 52 then Char.ofNat (0x61 + (n - 26))
  else if n < 62 then Char.ofNat (0x30 + (n - 52))
  else if n = 62 then '+' else '/'

/-- The base-64 characters of data. -/
def encode : Bytes → List Char
  | a :: b :: c :: r =>
    let n := a.toNat * 0x10000 + b.toNat * 0x100 + c.toNat
    digit (n / 0x40000) :: digit (n / 0x1000 % 0x40) :: digit (n / 0x40 % 0x40) :: digit (n % 0x40)
      :: encode r
  | [a, b] =>
    let n := a.toNat * 0x400 + b.toNat * 4
    [digit (n / 0x1000), digit (n / 0x40 % 0x40), digit (n % 0x40), '=']
  | [a] =>
    let n := a.toNat * 0x10
    [digit (n / 0x40), digit (n % 0x40), '=', '=']
  | [] => []

/-- The base-64 text of data. -/
def ofBytes (s : Bytes) : String := String.ofList (encode s)

end Base64

end CloudClient
