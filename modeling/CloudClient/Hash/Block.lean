import CloudClient.Text.Utf8

/-!
# Blocks

The three digests read a message in blocks of 64 bytes, after padding it with a one bit, zeros
and its length in bits. Words are 32 bits wide and stand in one of the two byte orders. A keyed
digest hashes the message behind the key mixed with one constant, and the result behind the key
mixed with another; a key longer than a block is replaced by its digest. Main statement: a padded
message fills whole blocks.
-/

namespace CloudClient.Hash

/-- The number of bytes in a block. -/
def blockSize : Nat := 64

/-- The bytes of a number of 64 bits, least significant first. -/
def littleBytes (n : Nat) : Bytes :=
  (List.range 8).map fun i => UInt8.ofNat (n / Nat.pow 256 i)

/-- The bytes of a number of 64 bits, most significant first. -/
def bigBytes (n : Nat) : Bytes := (littleBytes n).reverse

/-- The zeros between the end mark and the length: as few as make whole blocks. -/
def zeroCount (length : Nat) : Nat := (119 - length % 64) % 64

/-- A message with its end mark, zeros and length. -/
def pad (lengthBytes : Nat → Bytes) (message : Bytes) : Bytes :=
  message ++ 0x80 :: List.replicate (zeroCount message.length) 0
    ++ lengthBytes (8 * message.length)

/-- Cuts a list into blocks; the last may be shorter. -/
def blocks (s : Bytes) : List Bytes :=
  if _h : s = [] then []
  else
    s.take blockSize :: blocks (s.drop blockSize)
termination_by s.length
decreasing_by
  have := List.length_pos_iff.2 ‹_›
  simp [blockSize]
  omega

/-- A padded message fills whole blocks. -/
theorem length_pad (lengthBytes : Nat → Bytes) (hl : ∀ n, (lengthBytes n).length = 8)
    (message : Bytes) : (pad lengthBytes message).length % blockSize = 0 := by
  simp [pad, hl, blockSize, zeroCount]
  omega

/-- The words of a block, most significant byte first. -/
def bigWords : Bytes → List UInt32
  | a :: b :: c :: d :: r =>
    ((a.toUInt32 <<< 24) ||| (b.toUInt32 <<< 16) ||| (c.toUInt32 <<< 8) ||| d.toUInt32)
      :: bigWords r
  | _ => []

/-- The words of a block, least significant byte first. -/
def littleWords : Bytes → List UInt32
  | a :: b :: c :: d :: r =>
    ((d.toUInt32 <<< 24) ||| (c.toUInt32 <<< 16) ||| (b.toUInt32 <<< 8) ||| a.toUInt32)
      :: littleWords r
  | _ => []

/-- The bytes of a word, most significant first. -/
def bigWordBytes (w : UInt32) : Bytes :=
  [(w >>> 24).toUInt8, (w >>> 16).toUInt8, (w >>> 8).toUInt8, w.toUInt8]

/-- The bytes of a word, least significant first. -/
def littleWordBytes (w : UInt32) : Bytes := (bigWordBytes w).reverse

/-- A word rotated to the left. -/
def rotateLeft (w : UInt32) (n : UInt32) : UInt32 := (w <<< n) ||| (w >>> (32 - n))

/-- A word rotated to the right. -/
def rotateRight (w : UInt32) (n : UInt32) : UInt32 := (w >>> n) ||| (w <<< (32 - n))

/-! ## Keyed digests -/

/-- A key filled up with zeros to the size of a block, or its digest when it is longer. -/
def blockKey (digest : Bytes → Bytes) (key : Bytes) : Bytes :=
  let k := if blockSize < key.length then digest key else key
  k ++ List.replicate (blockSize - k.length) 0

/-- The digest of a message under a key. -/
def hmac (digest : Bytes → Bytes) (key message : Bytes) : Bytes :=
  let k := blockKey digest key
  digest (k.map (· ^^^ 0x5C) ++ digest (k.map (· ^^^ 0x36) ++ message))

end CloudClient.Hash
