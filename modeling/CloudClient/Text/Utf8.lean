/-!
# UTF-8

Texts are lists of characters, wire data are lists of bytes. Encoding writes each character as
one to four bytes. Decoding reads one character at a time, refusing overlong forms, surrogates
and values beyond the last code point; the lossy decoder replaces each longest refused prefix of
a character by the replacement character. Main statement: decoding a text undoes encoding it.
-/

namespace CloudClient

/-- Data as it travels: a list of bytes. -/
abbrev Bytes := List UInt8

namespace Utf8

/-- The bytes of a text. -/
def encode (s : List Char) : Bytes :=
  s.flatMap String.utf8EncodeChar

/-- The empty text has no bytes. -/
@[simp] theorem encode_nil : encode [] = [] := rfl

/-- A text is encoded character by character. -/
@[simp] theorem encode_cons (c : Char) (s : List Char) :
    encode (c :: s) = String.utf8EncodeChar c ++ encode s := rfl

/-- A concatenation is encoded part by part. -/
@[simp] theorem encode_append (s t : List Char) : encode (s ++ t) = encode s ++ encode t := by
  simp [encode]

/-- The bytes of a string. -/
def ofString (s : String) : Bytes :=
  encode s.toList

/-- The number of continuation bytes after a lead byte, with the range of the first of them. -/
def lead? (b : UInt8) : Option (Nat × UInt8 × UInt8) :=
  if b < 0x80 then some (0, 0x80, 0xBF)
  else if b < 0xC2 then none
  else if b < 0xE0 then some (1, 0x80, 0xBF)
  else if b = 0xE0 then some (2, 0xA0, 0xBF)
  else if b = 0xED then some (2, 0x80, 0x9F)
  else if b < 0xF0 then some (2, 0x80, 0xBF)
  else if b = 0xF0 then some (3, 0x90, 0xBF)
  else if b < 0xF4 then some (3, 0x80, 0xBF)
  else if b = 0xF4 then some (3, 0x80, 0x8F)
  else none

/-- The value bits of a lead byte that announces the given number of continuation bytes. -/
def leadBits (n : Nat) (b : UInt8) : Nat :=
  match n with
  | 0 => b.toNat
  | 1 => b.toNat % 0x20
  | 2 => b.toNat % 0x10
  | _ => b.toNat % 0x08

/-- Reads `n` continuation bytes, the first of them between `lo` and `hi`. On success it gives the
code point; either way it gives the bytes that are left. -/
def continue? : Nat → UInt8 → UInt8 → Nat → Bytes → Option Nat × Bytes
  | 0, _, _, acc, s => (some acc, s)
  | _ + 1, _, _, _, [] => (none, [])
  | n + 1, lo, hi, acc, b :: r =>
    if lo ≤ b ∧ b ≤ hi then continue? n 0x80 0xBF (acc * 0x40 + b.toNat % 0x40) r
    else (none, b :: r)

/-- Reading continuation bytes never lengthens the rest. -/
theorem length_continue?_le (n : Nat) (lo hi : UInt8) (acc : Nat) (s : Bytes) :
    (continue? n lo hi acc s).2.length ≤ s.length := by
  induction n generalizing lo hi acc s with
  | zero => simp [continue?]
  | succ n ih =>
    cases s with
    | nil => simp [continue?]
    | cons b r =>
      simp only [continue?]
      split
      · exact Nat.le_succ_of_le (ih _ _ _ r)
      · simp

/-- Reads the character at the front: nothing when the bytes there are none, and the bytes left
behind it or behind the refused ones. -/
def step (b : UInt8) (r : Bytes) : Option Char × Bytes :=
  match lead? b with
  | none => (none, r)
  | some (n, lo, hi) =>
    match continue? n lo hi (leadBits n b) r with
    | (some v, rest) => (some (Char.ofNat v), rest)
    | (none, rest) => (none, rest)

/-- Reading a character never lengthens the rest. -/
theorem length_step_le (b : UInt8) (r : Bytes) : (step b r).2.length ≤ r.length := by
  unfold step
  split
  · simp
  · rename_i n lo hi _
    have h := length_continue?_le n lo hi (leadBits n b) r
    split <;> (rename_i heq; rw [heq] at h; exact h)

/-- What is left behind a character is no longer than what followed its first byte. -/
theorem length_rest_le {b : UInt8} {r rest : Bytes} {c : Option Char}
    (h : step b r = (c, rest)) : rest.length ≤ r.length := by
  have hle := length_step_le b r
  rwa [h] at hle

/-! ## Encoded characters -/

/-- A number below 256 is the value of its byte. -/
theorem toNat_byte {n : Nat} (h : n < 256) : (UInt8.ofNat n).toNat = n := by
  rw [UInt8.toNat_ofNat']
  omega

/-- The lead byte of a number is told by comparing the number. -/
theorem lead?_byte {n : Nat} (h : n < 256) : lead? (UInt8.ofNat n) =
    if n < 0x80 then some (0, 0x80, 0xBF)
    else if n < 0xC2 then none
    else if n < 0xE0 then some (1, 0x80, 0xBF)
    else if n = 0xE0 then some (2, 0xA0, 0xBF)
    else if n = 0xED then some (2, 0x80, 0x9F)
    else if n < 0xF0 then some (2, 0x80, 0xBF)
    else if n = 0xF0 then some (3, 0x90, 0xBF)
    else if n < 0xF4 then some (3, 0x80, 0xBF)
    else if n = 0xF4 then some (3, 0x80, 0x8F)
    else none := by
  simp only [lead?, UInt8.lt_iff_toNat_lt, ← UInt8.toNat_inj, toNat_byte h]
  rfl

/-- A continuation byte within its range gives six bits. -/
theorem continue?_byte (n acc : Nat) {lo hi : UInt8} {x : Nat} (hx : x < 64)
    (hlo : lo.toNat ≤ x + 128) (hhi : x + 128 ≤ hi.toNat) (r : Bytes) :
    continue? (n + 1) lo hi acc (UInt8.ofNat (x + 128) :: r) =
      continue? n 0x80 0xBF (acc * 0x40 + x) r := by
  have hb : (UInt8.ofNat (x + 128)).toNat = x + 128 := toNat_byte (by omega)
  have hm : (x + 128) % 0x40 = x := by omega
  rw [continue?, if_pos, hb, hm]
  rw [UInt8.le_iff_toNat_le, UInt8.le_iff_toNat_le, hb]
  exact ⟨hlo, hhi⟩

/-- The lead byte of three admits the second byte of a character that needs three. -/
theorem lead?_three {v : Nat} (hlo : 0x800 ≤ v) (hhi : v < 0x10000)
    (hs : v < 0xD800 ∨ 0xDFFF < v) :
    ∃ lo hi, lead? (UInt8.ofNat (v / 4096 % 16 + 224)) = some (2, lo, hi) ∧
      lo.toNat ≤ v / 64 % 64 + 128 ∧ v / 64 % 64 + 128 ≤ hi.toNat := by
  rw [lead?_byte (by omega), if_neg (by omega), if_neg (by omega), if_neg (by omega)]
  split
  · exact ⟨0xA0, 0xBF, rfl, by show 160 ≤ _; omega, by show _ ≤ 191; omega⟩
  · split
    · exact ⟨0x80, 0x9F, rfl, by show 128 ≤ _; omega, by show _ ≤ 159; omega⟩
    · rw [if_pos (by omega)]
      exact ⟨0x80, 0xBF, rfl, by show 128 ≤ _; omega, by show _ ≤ 191; omega⟩

/-- The lead byte of four admits the second byte of a character that needs four. -/
theorem lead?_four {v : Nat} (hlo : 0x10000 ≤ v) (hhi : v < 0x110000) :
    ∃ lo hi, lead? (UInt8.ofNat (v / 262144 % 8 + 240)) = some (3, lo, hi) ∧
      lo.toNat ≤ v / 4096 % 64 + 128 ∧ v / 4096 % 64 + 128 ≤ hi.toNat := by
  rw [lead?_byte (by omega), if_neg (by omega), if_neg (by omega), if_neg (by omega),
    if_neg (by omega), if_neg (by omega), if_neg (by omega)]
  split
  · exact ⟨0x90, 0xBF, rfl, by show 144 ≤ _; omega, by show _ ≤ 191; omega⟩
  · split
    · exact ⟨0x80, 0xBF, rfl, by show 128 ≤ _; omega, by show _ ≤ 191; omega⟩
    · rw [if_pos (by omega)]
      exact ⟨0x80, 0x8F, rfl, by show 128 ≤ _; omega, by show _ ≤ 143; omega⟩

/-- A last continuation byte gives the code point. -/
theorem continue?_last (acc v : Nat) (rest : Bytes) :
    continue? 1 0x80 0xBF acc (UInt8.ofNat (v % 64 + 128) :: rest) =
      (some (acc * 0x40 + v % 64), rest) := by
  rw [continue?_byte 0 acc (by omega) (by show 128 ≤ _; omega) (by show _ ≤ 191; omega)]
  rfl

/-- Decoding the character at the front undoes encoding it. -/
theorem step_encodeChar (c : Char) (rest : Bytes) :
    ∃ b r, String.utf8EncodeChar c ++ rest = b :: r ∧ step b r = (some c, rest) := by
  have hv : c.val.toNat.isValidChar := c.valid
  have hc : Char.ofNat c.val.toNat = c := Char.ofNat_toNat c
  rw [String.utf8EncodeChar.eq_1]
  generalize c.val.toNat = v at hv hc
  simp only [Nat.isValidChar] at hv
  by_cases h1 : v ≤ 127
  · rw [if_pos h1]
    refine ⟨UInt8.ofNat v, rest, rfl, ?_⟩
    rw [step, lead?_byte (by omega), if_pos (by omega)]
    simp only [continue?, leadBits, toNat_byte (show v < 256 by omega), hc]
  rw [if_neg h1]
  by_cases h2 : v ≤ 2047
  · rw [if_pos h2]
    refine ⟨_, UInt8.ofNat (v % 64 + 128) :: rest, rfl, ?_⟩
    rw [step, lead?_byte (by omega), if_neg (by omega), if_neg (by omega), if_pos (by omega)]
    simp only [leadBits, toNat_byte (show v / 64 % 32 + 192 < 256 by omega), continue?_last]
    rw [show (v / 64 % 32 + 192) % 0x20 * 0x40 + v % 64 = v by omega, hc]
  rw [if_neg h2]
  by_cases h3 : v ≤ 65535
  · rw [if_pos h3]
    refine ⟨_, UInt8.ofNat (v / 64 % 64 + 128) :: UInt8.ofNat (v % 64 + 128) :: rest, rfl, ?_⟩
    obtain ⟨lo, hi, hl, hlo, hhi⟩ := lead?_three (v := v) (by omega) (by omega) (by omega)
    rw [step, hl]
    simp only [leadBits, toNat_byte (show v / 4096 % 16 + 224 < 256 by omega)]
    rw [continue?_byte 1 _ (by omega) hlo hhi, continue?_last]
    simp only
    rw [show ((v / 4096 % 16 + 224) % 0x10 * 0x40 + v / 64 % 64) * 0x40 + v % 64 = v by omega, hc]
  · rw [if_neg h3]
    refine ⟨_, UInt8.ofNat (v / 4096 % 64 + 128) :: UInt8.ofNat (v / 64 % 64 + 128) ::
      UInt8.ofNat (v % 64 + 128) :: rest, rfl, ?_⟩
    obtain ⟨lo, hi, hl, hlo, hhi⟩ := lead?_four (v := v) (by omega) (by omega)
    rw [step, hl]
    simp only [leadBits, toNat_byte (show v / 262144 % 8 + 240 < 256 by omega)]
    rw [continue?_byte 2 _ (by omega) hlo hhi, continue?_byte 1 _ (by omega)
      (by show 128 ≤ _; omega) (by show _ ≤ 191; omega), continue?_last]
    simp only
    rw [show (((v / 262144 % 8 + 240) % 0x08 * 0x40 + v / 4096 % 64) * 0x40 + v / 64 % 64) * 0x40 +
      v % 64 = v by omega, hc]

/-! ## Whole texts -/

/-- The text of a byte string, when all of it is UTF-8. -/
def decode? (s : Bytes) : Option (List Char) :=
  match s with
  | [] => some []
  | b :: r =>
    match h : step b r with
    | (none, _) => none
    | (some c, rest) =>
      have _hle := length_rest_le h
      (decode? rest).map (c :: ·)
termination_by s.length
decreasing_by
  simp only [List.length_cons]
  omega

/-- The text of a byte string, with the replacement character for what is not UTF-8. -/
def decodeLossy (s : Bytes) : List Char :=
  match s with
  | [] => []
  | b :: r =>
    match h : step b r with
    | (c, rest) =>
      have _hle := length_rest_le h
      c.getD (Char.ofNat 0xFFFD) :: decodeLossy rest
termination_by s.length
decreasing_by
  simp only [List.length_cons]
  omega

/-- Decoding a text undoes encoding it. -/
theorem decode?_encode (s : List Char) : decode? (encode s) = some s := by
  induction s with
  | nil => simp [decode?]
  | cons c s ih =>
    obtain ⟨b, r, he, hs⟩ := step_encodeChar c (encode s)
    rw [encode_cons, he, decode?]
    split
    · rename_i h
      rw [hs] at h
      cases h
    · rename_i h
      rw [hs] at h
      cases h
      rw [ih]
      rfl

/-- The lossy decoder undoes encoding as well. -/
theorem decodeLossy_encode (s : List Char) : decodeLossy (encode s) = s := by
  induction s with
  | nil => simp [decodeLossy]
  | cons c s ih =>
    obtain ⟨b, r, he, hs⟩ := step_encodeChar c (encode s)
    rw [encode_cons, he, decodeLossy]
    split
    rename_i h
    rw [hs] at h
    cases h
    rw [ih]
    rfl

end Utf8

end CloudClient
