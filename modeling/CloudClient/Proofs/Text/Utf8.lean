import CloudClient.Text.Utf8

/-!
# ASCII in UTF-8

Main statements: a character of ASCII is written as the byte of its number, and stands among the
bytes of a text only where it stands in the text.
-/

namespace CloudClient.Utf8

/-- A character of ASCII takes one byte. -/
theorem encodeChar_of_lt {c : Char} (h : c.toNat < 0x80) :
    String.utf8EncodeChar c = [UInt8.ofNat c.toNat] := by
  rw [String.utf8EncodeChar.eq_1]
  exact if_pos (Nat.le_of_lt_succ h)

/-- The byte of a character of ASCII. -/
theorem toNat_ofNat_of_lt {c : Char} (h : c.toNat < 0x80) : (UInt8.ofNat c.toNat).toNat = c.toNat :=
  toNat_byte (by omega)

/-- The bytes of a text of ASCII are the numbers of its characters. -/
theorem map_encode_of_lt {s : List Char} (h : ∀ c ∈ s, c.toNat < 0x80) :
    (encode s).map (fun b => Char.ofNat b.toNat) = s := by
  induction s with
  | nil => rfl
  | cons c s ih =>
    have hc := h c List.mem_cons_self
    have hrest := ih fun d hd => h d (List.mem_cons_of_mem c hd)
    rw [encode_cons, encodeChar_of_lt hc, List.singleton_append, List.map_cons, hrest,
      toNat_ofNat_of_lt hc, Char.ofNat_toNat]

/-- A character beyond ASCII has no byte of ASCII. -/
theorem le_of_mem_encodeChar {c : Char} (h : 0x80 ≤ c.toNat) {b : UInt8}
    (hb : b ∈ String.utf8EncodeChar c) : 0x80 ≤ b.toNat := by
  have hv : c.val.toNat.isValidChar := c.valid
  have hc : 0x80 ≤ c.val.toNat := h
  rw [String.utf8EncodeChar.eq_1] at hb
  generalize c.val.toNat = v at hv hc hb
  simp only [Nat.isValidChar] at hv
  rw [if_neg (by omega)] at hb
  -- Every byte is a number of at least 0x80 below 256.
  have hbyte : ∀ {n}, 0x80 ≤ n → n < 256 → 0x80 ≤ (UInt8.ofNat n).toNat := by
    intro n hlo hhi
    rwa [toNat_byte hhi]
  split at hb
  · simp only [List.mem_cons, List.not_mem_nil, or_false] at hb
    rcases hb with rfl | rfl
    all_goals exact hbyte (by omega) (by omega)
  split at hb
  · simp only [List.mem_cons, List.not_mem_nil, or_false] at hb
    rcases hb with rfl | rfl | rfl
    all_goals exact hbyte (by omega) (by omega)
  · simp only [List.mem_cons, List.not_mem_nil, or_false] at hb
    rcases hb with rfl | rfl | rfl | rfl
    all_goals exact hbyte (by omega) (by omega)

/-- A byte of ASCII in a text is the number of a character of the text. -/
theorem exists_of_mem_encode {s : List Char} {b : UInt8} (hb : b.toNat < 0x80) (h : b ∈ encode s) :
    ∃ c ∈ s, c.toNat = b.toNat := by
  obtain ⟨c, hc, hmem⟩ := List.mem_flatMap.1 h
  refine ⟨c, hc, ?_⟩
  by_cases hlt : c.toNat < 0x80
  · rw [encodeChar_of_lt hlt, List.mem_singleton] at hmem
    rw [hmem, toNat_ofNat_of_lt hlt]
  · have hle := le_of_mem_encodeChar (Nat.le_of_not_lt hlt) hmem
    omega

/-- In particular it stands there only where the character does. -/
theorem mem_of_byte_mem_encode {s : List Char} {c : Char} (hc : c.toNat < 0x80)
    (h : UInt8.ofNat c.toNat ∈ encode s) : c ∈ s := by
  have hbyte : (UInt8.ofNat c.toNat).toNat = c.toNat := toNat_ofNat_of_lt hc
  obtain ⟨d, hd, heq⟩ := exists_of_mem_encode (by rwa [hbyte]) h
  have hdc : d = c := by rw [← Char.ofNat_toNat d, heq, hbyte, Char.ofNat_toNat]
  rwa [hdc] at hd

end CloudClient.Utf8
