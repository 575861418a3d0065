import CloudClient.Proofs.Decode.Header

/-!
# Numbers that are read back

Main statement: what is written of a natural number is read as that number, unless it has too many
digits.
-/

namespace CloudClient

namespace Number

/-- A digit of the standard notation has its value. -/
theorem decimalValue?_of_isDigit {c : Char} (h : c.isDigit = true) :
    Text.decimalValue? c = some (c.toNat - '0'.toNat) := by
  have hc := Char.isDigit_iff_toNat.1 h
  simp only [Char.reduceToNat] at hc
  have hlt : c.toNat < 0x80 := by omega
  have hrange : (decide (0x30 ≤ c.toNat) && decide (c.toNat ≤ 0x39)) = true := by
    rw [Bool.and_eq_true, decide_eq_true_eq, decide_eq_true_eq]
    exact hc
  rw [Text.decimalValue?, if_pos hlt, if_pos hrange]
  rfl

/-- A digit of the standard notation looks like a digit. -/
theorem isDigitLike_of_isDigit {c : Char} (h : c.isDigit = true) : Text.isDigitLike c = true := by
  rw [Text.isDigitLike, decimalValue?_of_isDigit h]
  rfl

/-- The digits of the standard notation denote the number that they write. -/
theorem ofDigits_digitValues {s : List Char} (h : ∀ c ∈ s, c.isDigit = true) :
    ofDigits (digitValues s) = Nat.ofDigitChars 10 s 0 := by
  have hfold : ∀ acc, (digitValues s).foldl (fun n d => 10 * n + d) acc =
      Nat.ofDigitChars 10 s acc := by
    induction s with
    | nil => exact fun _ => rfl
    | cons c s ih =>
      intro acc
      have hvalues : digitValues (c :: s) = (c.toNat - '0'.toNat) :: digitValues s :=
        List.filterMap_cons_some (decimalValue?_of_isDigit (h c List.mem_cons_self))
      rw [hvalues, List.foldl_cons, Nat.ofDigitChars_cons]
      exact ih (fun d hd => h d (List.mem_cons_of_mem c hd)) _
  exact hfold 0

/-- **Digits are read as the number that they write**, unless they are too many. -/
theorem readInt_of_isDigit {s : List Char} (hdigit : ∀ c ∈ s, c.isDigit = true) (hne : s ≠ [])
    (h : s.length ≤ maxDigits) : readInt s = .ok (Nat.ofDigitChars 10 s 0 : Nat) := by
  have hsome : ∀ c ∈ s, (Text.decimalValue? c).isSome = true := by
    intro c hc
    rw [decimalValue?_of_isDigit (hdigit c hc)]
    rfl
  have hlike : ∀ c ∈ s, Text.isDigitLike c = true :=
    fun c hc => isDigitLike_of_isDigit (hdigit c hc)
  obtain ⟨i, hi⟩ := (exists_readInt_iff hlike hne).2 ⟨hsome, h⟩
  have htake : s.takeWhile isDigitOrMark = s := by
    rw [List.takeWhile_eq_self_iff]
    intro c hc
    rw [isDigitOrMark, hsome c hc, Bool.true_or]
  -- The reading succeeds, and the only number that it can give is the value of the digits.
  have hread := readInt_of_isDigitLike hlike
  rw [hi, htake, ofDigits_digitValues hdigit] at hread
  split at hread
  · cases hread
  split at hread
  · cases hread
  split at hread
  · rw [hi, hread]
  · cases hread

/-- **A natural number is read back.** -/
theorem readInt_toDigits {n : Nat} (h : (Nat.toDigits 10 n).length ≤ maxDigits) :
    readInt (Nat.toDigits 10 n) = .ok (n : Int) := by
  have hdigit : ∀ c ∈ Nat.toDigits 10 n, c.isDigit = true := fun c hc =>
    Nat.isDigit_of_mem_toDigits (by decide) (by decide) hc
  rw [readInt_of_isDigit hdigit Nat.toDigits_ne_nil h, Nat.ofDigitChars_ten_toDigits]

end Number

/-- The same of strings. -/
theorem readInt_toString {n : Nat} (h : (toString n).length ≤ Number.maxDigits) :
    readInt (toString n) = .ok (n : Int) := by
  have htext : (toString n).toList = Nat.toDigits 10 n := Nat.toList_repr
  have hlength : (Nat.toDigits 10 n).length ≤ Number.maxDigits := by
    rw [← htext, String.length_toList]
    exact h
  rw [readInt, htext]
  exact Number.readInt_toDigits hlength

end CloudClient
