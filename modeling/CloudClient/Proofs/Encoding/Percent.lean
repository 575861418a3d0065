import CloudClient.Encoding.Percent

/-!
# Percent-encoding can be undone

Main statements: an encoded text is read as the text it was made of, and it holds no characters but
unreserved ones, those that are to be kept, and the percent signs and digits of triplets.
-/

namespace CloudClient.Percent

variable {safe : List Char}

/-! ## One byte -/

/-- The value of the digit of a number below sixteen. -/
theorem digitValue?_hexDigit {n : Nat} (hn : n < 16) : Hex.digitValue? (hexDigit n) = some n := by
  revert n
  decide

/-- Unreserved bytes are in ASCII. -/
theorem lt_of_isUnreserved {b : UInt8} (h : isUnreserved b = true) : b.toNat < 128 := by
  simp only [isUnreserved, Bool.or_eq_true, Bool.and_eq_true, decide_eq_true_eq, beq_iff_eq,
    UInt8.le_iff_toNat_le, ← UInt8.toNat_inj] at h
  change ((((((65 ≤ b.toNat ∧ b.toNat ≤ 90) ∨ (97 ≤ b.toNat ∧ b.toNat ≤ 122)) ∨
    (48 ≤ b.toNat ∧ b.toNat ≤ 57)) ∨ b.toNat = 45) ∨ b.toNat = 95) ∨ b.toNat = 46) ∨
      b.toNat = 126 at h
  omega

/-- Bytes that are kept are in ASCII. -/
theorem lt_of_isKept {b : UInt8} (h : isKept safe b = true) : b.toNat < 128 := by
  rw [isKept, Bool.or_eq_true, Bool.and_eq_true] at h
  rcases h with h | ⟨h, -⟩
  · exact lt_of_isUnreserved h
  · exact UInt8.lt_iff_toNat_lt.1 (of_decide_eq_true h)

/-- A character of ASCII has its number. -/
theorem toNat_ofNat {n : Nat} (h : n < 128) : (Char.ofNat n).toNat = n := by
  revert n
  decide

/-- A character of ASCII is one byte. -/
theorem encode_ofNat {n : Nat} (h : n < 128) : Utf8.encode [Char.ofNat n] = [UInt8.ofNat n] := by
  revert n
  decide

/-- A percent sign is always part of a triplet, unless it is to be kept. -/
theorem ofNat_ne_percent {b : UInt8} (hsafe : '%' ∉ safe) (h : isKept safe b = true) :
    Char.ofNat b.toNat ≠ '%' := by
  intro heq
  rw [isKept, heq, Bool.or_eq_true, Bool.and_eq_true] at h
  rcases h with h | ⟨-, h⟩
  · have hnumber : b.toNat = 37 := by
      rw [← toNat_ofNat (lt_of_isUnreserved h), heq]
      rfl
    have hb : b = 37 := by
      rw [← UInt8.toNat_inj]
      exact hnumber
    rw [hb] at h
    cases h
  · exact hsafe (List.contains_iff_mem.1 h)

/-! ## Decoding -/

/-- A character that begins no triplet stands for itself. -/
theorem decodeBytes_cons {c : Char} (h : c ≠ '%') (s : List Char) :
    decodeBytes (c :: s) = Utf8.encode [c] ++ decodeBytes s := by
  match s with
  | [] => rw [decodeBytes, decodeBytes, List.append_nil]
  | [d] => rw [decodeBytes, decodeBytes, ← Utf8.encode_append, List.singleton_append]
  | d :: e :: r => rw [decodeBytes, if_neg h]

/-- A triplet stands for its byte. -/
theorem decodeBytes_triplet {d e : Char} {x y : Nat} (hd : Hex.digitValue? d = some x)
    (he : Hex.digitValue? e = some y) (s : List Char) :
    decodeBytes ('%' :: d :: e :: s) = UInt8.ofNat (16 * x + y) :: decodeBytes s := by
  rw [decodeBytes, if_pos rfl, hd, he]

/-- The encoded form of a byte is read as the byte. -/
theorem decodeBytes_encodeByte (hsafe : '%' ∉ safe) (b : UInt8) (s : List Char) :
    decodeBytes (encodeByte safe b ++ s) = b :: decodeBytes s := by
  have hb : b.toNat < 256 := b.toNat_lt
  unfold encodeByte
  split
  · rename_i hkept
    rw [List.singleton_append, decodeBytes_cons (ofNat_ne_percent hsafe hkept),
      encode_ofNat (lt_of_isKept hkept), UInt8.ofNat_toNat]
    rfl
  · have hhigh : Hex.digitValue? (hexDigit (b.toNat / 16)) = some (b.toNat / 16) :=
      digitValue?_hexDigit (by omega)
    have hlow : Hex.digitValue? (hexDigit (b.toNat % 16)) = some (b.toNat % 16) :=
      digitValue?_hexDigit (by omega)
    have hsum : 16 * (b.toNat / 16) + b.toNat % 16 = b.toNat := by omega
    show decodeBytes ('%' :: hexDigit (b.toNat / 16) :: hexDigit (b.toNat % 16) :: s) = _
    rw [decodeBytes_triplet hhigh hlow, hsum, UInt8.ofNat_toNat]

/-- **An encoded text has the bytes of the text it was made of.** -/
theorem decodeBytes_encode (hsafe : '%' ∉ safe) (s : List Char) :
    decodeBytes (encode safe s) = Utf8.encode s := by
  rw [encode]
  induction Utf8.encode s with
  | nil => rfl
  | cons b bytes ih => rw [List.flatMap_cons, decodeBytes_encodeByte hsafe, ih]

/-- **An encoded text is read as the text it was made of.** -/
theorem decode?_encode (hsafe : '%' ∉ safe) (s : List Char) : decode? (encode safe s) = some s := by
  rw [decode?, decodeBytes_encode hsafe, Utf8.decode?_encode]

/-! ## What an encoded text holds -/

/-- The characters of encoded texts: unreserved ones, upper-case digits of triplets among them,
those that are to be kept, and percent signs. -/
def isWritten (safe : List Char) (c : Char) : Bool :=
  (c.toNat < 128 && (isUnreserved (UInt8.ofNat c.toNat) || safe.contains c)) || c == '%'

/-- The digits of triplets are unreserved characters. -/
theorem isWritten_hexDigit {n : Nat} (hn : n < 16) : isWritten safe (hexDigit n) = true := by
  have hdigit : ∀ n < 16, (hexDigit n).toNat < 128 ∧
      isUnreserved (UInt8.ofNat (hexDigit n).toNat) = true := by decide
  obtain ⟨hlt, hunreserved⟩ := hdigit n hn
  simp [isWritten, hlt, hunreserved]

/-- **An encoded text holds nothing else.** -/
theorem isWritten_of_mem_encode {s : List Char} {c : Char} (h : c ∈ encode safe s) :
    isWritten safe c = true := by
  obtain ⟨b, -, hc⟩ := List.mem_flatMap.1 h
  have hb : b.toNat < 256 := b.toNat_lt
  unfold encodeByte at hc
  split at hc
  · rename_i hkept
    obtain rfl := List.mem_singleton.1 hc
    have hlt := lt_of_isKept hkept
    rw [isKept, Bool.or_eq_true, Bool.and_eq_true] at hkept
    rw [isWritten, toNat_ofNat hlt, UInt8.ofNat_toNat]
    rcases hkept with h | ⟨-, h⟩
    · simp [hlt, h]
    · simp [hlt, List.contains_iff_mem.1 h]
  · rcases List.mem_cons.1 hc with rfl | hc
    · simp [isWritten]
    · rcases List.mem_cons.1 hc with rfl | hc
      · exact isWritten_hexDigit (by omega)
      · obtain rfl := List.mem_singleton.1 hc
        exact isWritten_hexDigit (by omega)

/-- A character that is never written stands in no encoded text. -/
theorem not_mem_encode {c : Char} (h : isWritten safe c = false) (s : List Char) :
    c ∉ encode safe s := by
  intro hc
  rw [isWritten_of_mem_encode hc] at h
  cases h

end CloudClient.Percent
