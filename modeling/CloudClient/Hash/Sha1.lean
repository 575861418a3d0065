import CloudClient.Hash.Block

/-!
# SHA-1

The digest of 20 bytes that header signatures of the second version use. Main statement: a digest
has 20 bytes.
-/

namespace CloudClient.Hash

namespace Sha1

/-- The five words carried from block to block. -/
structure State where
  a : UInt32
  b : UInt32
  c : UInt32
  d : UInt32
  e : UInt32
  deriving DecidableEq, Repr

/-- The state before the first block. -/
def initial : State := ⟨0x67452301, 0xEFCDAB89, 0x98BADCFE, 0x10325476, 0xC3D2E1F0⟩

/-- The word that follows a window of sixteen. -/
def nextWord (w : List UInt32) : UInt32 :=
  rotateLeft (w.getD 13 0 ^^^ w.getD 8 0 ^^^ w.getD 2 0 ^^^ w.getD 0 0) 1

/-- The first `n` words of the expansion of a window. -/
def expand : Nat → List UInt32 → List UInt32
  | 0, _ => []
  | n + 1, w => w.getD 0 0 :: expand n (w.drop 1 ++ [nextWord w])

/-- The mixing function and the constant of a round. -/
def roundOf (i : Nat) (b c d : UInt32) : UInt32 × UInt32 :=
  if i < 20 then ((b &&& c) ||| (~~~b &&& d), 0x5A827999)
  else if i < 40 then (b ^^^ c ^^^ d, 0x6ED9EBA1)
  else if i < 60 then ((b &&& c) ||| (b &&& d) ||| (c &&& d), 0x8F1BBCDC)
  else (b ^^^ c ^^^ d, 0xCA62C1D6)

/-- One round, with its word and number. -/
def step (s : State) (w : UInt32 × Nat) : State :=
  let (f, k) := roundOf w.2 s.b s.c s.d
  ⟨rotateLeft s.a 5 + f + s.e + k + w.1, s.a, rotateLeft s.b 30, s.c, s.d⟩

/-- Mixes a block into the state. -/
def compress (s : State) (block : Bytes) : State :=
  let t := (expand 80 (bigWords block)).zipIdx.foldl step s
  ⟨s.a + t.a, s.b + t.b, s.c + t.c, s.d + t.d, s.e + t.e⟩

/-- The digest of a message. -/
def digest (message : Bytes) : Bytes :=
  let s := (blocks (pad bigBytes message)).foldl compress initial
  [s.a, s.b, s.c, s.d, s.e].flatMap bigWordBytes

/-- A digest has 20 bytes. -/
theorem length_digest (message : Bytes) : (digest message).length = 20 := by
  simp [digest, bigWordBytes]

end Sha1

/-- The keyed digest of 20 bytes. -/
def hmacSha1 (key message : Bytes) : Bytes := hmac Sha1.digest key message

end CloudClient.Hash
