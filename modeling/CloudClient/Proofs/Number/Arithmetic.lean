import CloudClient.Proofs.Number.Rounding

/-!
# Values of results

An operation on double-precision numbers rounds its exact result. Main statements, for magnitudes:
the value of a result is the exact one rounded, and the result is infinite from a certain magnitude
on; representable results are exact; and a power of two is one as long as it is in range.
-/

namespace CloudClient.Binary64

variable {x y : Binary64} {a b q w : ℚ}

/-! ## The range of finite numbers -/

/-- The first power of two that is beyond the finite numbers. -/
def bound : ℚ := 2 ^ (1024 : ℤ)

/-- The first magnitude that is rounded beyond the finite numbers. -/
def range : ℚ := 2 ^ (1024 : ℤ) - 2 ^ (970 : ℤ)

/-- **What is rounded beyond the finite numbers** is what lies from the middle below their bound on.
-/
theorem Rounds.lt_bound_iff (h : Rounds q w) : w < bound ↔ q < range :=
  h.lt_two_zpow_iff (k := 1024) (by decide)

/-- The range lies below the bound. -/
theorem range_lt_bound : range < bound := sub_lt_self _ (two_zpow_pos 970)

/-- A mantissa times a power of two, as numerator and denominator. -/
theorem unscaled_neg (m : ℕ) (e : ℤ) :
    0 < (unscaled m 1 (-e)).2 ∧
      ((unscaled m 1 (-e)).1 : ℚ) / (unscaled m 1 (-e)).2 = m * 2 ^ e := by
  obtain ⟨hpos, hdiv⟩ := unscaled_div m Nat.one_pos (-e)
  rw [Nat.cast_one, div_one, zpow_neg, div_inv_eq_mul] at hdiv
  exact ⟨hpos, hdiv⟩

/-- A representable magnitude is rounded to itself. -/
theorem rounds_self (h : IsRepresentable q) : Rounds q q := by
  have hrep := h
  obtain ⟨m, e, -, -, rfl⟩ := h
  obtain ⟨hpos, hdiv⟩ := unscaled_neg m e
  have hrounds := rounds_nearest (unscaled m 1 (-e)).1 hpos
  rw [hdiv] at hrounds
  have hself := hrounds.eq_of_isRepresentable hrep
  rwa [hself] at hrounds

/-- The powers of two before the bound are in range. -/
theorem two_zpow_le_range {k : ℤ} (h : k ≤ 1023) : (2 : ℚ) ^ k ≤ range := by
  have hsmall : (2 : ℚ) ^ (970 : ℤ) ≤ 2 ^ (1023 : ℤ) := two_zpow_le (by decide)
  have htwice : (2 : ℚ) ^ (1024 : ℤ) = 2 ^ (1023 : ℤ) + 2 ^ (1023 : ℤ) := by
    rw [show (1024 : ℤ) = 1 + 1023 by decide, two_zpow_add, zpow_one, two_mul]
  refine (two_zpow_le h).trans (le_sub_iff_add_le.2 ?_)
  rw [htwice]
  exact add_le_add_right hsmall _

/-- **A power of two may be multiplied before or after rounding** as far as the range is concerned.
-/
theorem Rounds.mul_two_pow_lt_bound_iff (h : Rounds q w) {n : ℕ} (hn : n ≤ 1024) :
    w * 2 ^ n < bound ↔ q * 2 ^ n < range := by
  have hpow : (0 : ℚ) < 2 ^ n := by positivity
  have hsplit : ∀ k : ℤ, (2 : ℚ) ^ k = 2 ^ (k - n) * 2 ^ n := by
    intro k
    rw [← zpow_natCast, ← two_zpow_add]
    congr 1
    omega
  have hiff := h.lt_two_zpow_iff (k := 1024 - n) (by
    unfold minExponent
    omega)
  rw [bound, range, hsplit 1024, hsplit 970, ← sub_mul, mul_lt_mul_iff_left₀ hpow,
    mul_lt_mul_iff_left₀ hpow, hiff, show (1024 : ℤ) - n - 54 = 970 - n by omega]

/-! ## Results -/

/-- A number is a magnitude rounded: finite as long as that is in range. -/
def IsRounded (x : Binary64) (q : ℚ) : Prop :=
  ∃ w, Rounds q w ∧ (w < bound ∧ x.value? = some w ∨ bound ≤ w ∧ x = infinite false)

namespace IsRounded

/-- A magnitude in range is rounded to a finite number. -/
theorem exists_value (h : IsRounded x q) (hq : q < range) :
    ∃ w, Rounds q w ∧ w < bound ∧ x.value? = some w := by
  obtain ⟨w, hw, ⟨hlt, hvalue⟩ | ⟨hlarge, -⟩⟩ := h
  · exact ⟨w, hw, hlt, hvalue⟩
  · exact absurd hlarge (not_le.2 (hw.lt_bound_iff.2 hq))

/-- A magnitude beyond the range is rounded to an infinite number. -/
theorem eq_infinite (h : IsRounded x q) (hq : range ≤ q) : x = infinite false := by
  obtain ⟨w, hw, ⟨hlt, -⟩ | ⟨-, hx⟩⟩ := h
  · exact absurd hq (not_le.2 (hw.lt_bound_iff.1 hlt))
  · exact hx

/-- A representable magnitude below the bound is a number of its own. -/
theorem value_eq (h : IsRounded x q) (hq : IsRepresentable q) (hlt : q < bound) :
    x.value? = some q := by
  obtain ⟨w, hw, hx⟩ := h
  obtain rfl := hw.eq_of_isRepresentable hq
  rcases hx with ⟨-, hvalue⟩ | ⟨hlarge, -⟩
  · exact hvalue
  · exact absurd hlarge (not_le.2 hlt)

end IsRounded

/-! ## Values -/

/-- The value of a finite number as a fraction. -/
theorem value?_finite (negative : Bool) (m : ℕ) (e : ℤ) :
    (finite negative m e).value? = some (signed negative m * 2 ^ e : ℚ) := rfl

/-- A magnitude is a number whose sign is positive, or zero. -/
theorem eq_zero_of_value {negative : Bool} {m : ℕ} {e : ℤ}
    (h : 0 ≤ (signed negative m * 2 ^ e : ℚ)) : negative = true → m = 0 := by
  rintro rfl
  have hneg := nonneg_of_mul_nonneg_left h (two_zpow_pos e)
  have hint : 0 ≤ signed true m := by exact_mod_cast hneg
  unfold signed at hint
  simp at hint
  exact hint

/-- A magnitude is its mantissa times a power of two. -/
theorem signed_eq_of_nonneg {negative : Bool} {m : ℕ} (h : negative = true → m = 0) :
    signed negative m = m := by
  cases negative with
  | false => rfl
  | true =>
    rw [h rfl]
    rfl

/-- The value of a finite number as a fraction. -/
theorem exists_fraction (h : x.value? = some a) :
    ∃ (n : ℤ) (d : ℕ), x.fraction? = some (n, d) ∧ (0 : ℚ) < d ∧ a = n / d := by
  obtain ⟨negative, m, e⟩ | _ | _ := x
  · obtain rfl := Option.some.inj h
    obtain ⟨hpos, hdiv⟩ := unscaled_neg m e
    refine ⟨signed negative (unscaled m 1 (-e)).1, (unscaled m 1 (-e)).2, rfl,
      by exact_mod_cast hpos, ?_⟩
    cases negative with
    | false => simp only [signed, Bool.false_eq_true, if_false, Int.cast_natCast, hdiv]
    | true => simp only [signed, if_true, Int.cast_neg, Int.cast_natCast, neg_div, hdiv, neg_mul]
  · cases h
  · cases h

/-- A finite number lies below an integer where its value does. -/
theorem ltInt_iff (h : x.value? = some a) (n : ℤ) : x.ltInt n = true ↔ a < n := by
  obtain ⟨p, d, hfraction, hpos, rfl⟩ := exists_fraction h
  obtain ⟨negative, m, e⟩ | _ | _ := x
  · rw [ltInt, hfraction, div_lt_iff₀ hpos]
    show decide (p < n * d) = true ↔ _
    rw [decide_eq_true_iff]
    exact_mod_cast Iff.rfl
  · cases h
  · cases h

/-- A finite number is at most an integer where its value is. -/
theorem leInt_iff (h : x.value? = some a) (n : ℤ) : x.leInt n = true ↔ a ≤ n := by
  obtain ⟨p, d, hfraction, hpos, rfl⟩ := exists_fraction h
  obtain ⟨negative, m, e⟩ | _ | _ := x
  · rw [leInt, hfraction, div_le_iff₀ hpos]
    show decide (p ≤ n * d) = true ↔ _
    rw [decide_eq_true_iff]
    exact_mod_cast Iff.rfl
  · cases h
  · cases h

/-- A number above zero. -/
def IsPositive (x : Binary64) : Prop := x = infinite false ∨ ∃ v, x.value? = some v ∧ 0 < v

/-- **What is not at most zero** is above zero, or is no number at all. -/
theorem leInt_zero_eq_false_iff : x.leInt 0 = false ↔ x.IsPositive ∨ x = notANumber := by
  obtain ⟨negative, m, e⟩ | ⟨negative⟩ | _ := x
  · have hvalue := value?_finite negative m e
    rw [← Bool.not_eq_true, leInt_iff hvalue, Int.cast_zero, not_le]
    constructor
    · intro hpos
      exact .inl (.inr ⟨_, hvalue, hpos⟩)
    · rintro (hpositive | hnone)
      · obtain hinfinite | ⟨v, hv, hpos⟩ := hpositive
        · cases hinfinite
        · rwa [Option.some.inj (hvalue.symm.trans hv)]
      · cases hnone
  · cases negative <;> simp [leInt, IsPositive, value?]
  · simp [leInt]

/-! ## Rounded results -/

/-- Rounding in terms of the mantissa in its place. -/
theorem round_eq (negative : Bool) {num den : ℕ} (hnum : num ≠ 0) :
    round negative num den =
      if mantissa num den = 2 ^ 53 then
        if maxExponent < place num den + 1 then infinite negative
        else finite negative (2 ^ 52) (place num den + 1)
      else if maxExponent < place num den then infinite negative
      else finite negative (mantissa num den) (place num den) := by
  rw [round, if_neg hnum]
  show (let r := if mantissa num den = Nat.pow 2 53 then (Nat.pow 2 52, place num den + 1)
      else (mantissa num den, place num den);
    if maxExponent < r.2 then infinite negative else finite negative r.1 r.2) = _
  by_cases hm : mantissa num den = 2 ^ 53
  · have hm' : mantissa num den = Nat.pow 2 53 := hm
    simp only [if_pos hm, if_pos hm']
    rfl
  · have hm' : ¬mantissa num den = Nat.pow 2 53 := hm
    simp only [if_neg hm, if_neg hm']

/-- A mantissa times a power of two is compared with the bound by its exponents. -/
theorem mul_two_zpow_lt_bound {m : ℕ} {e : ℤ} (hm : m < 2 ^ 53) (he : e ≤ maxExponent) :
    (m * 2 ^ e : ℚ) < bound := by
  have hm' : (m : ℚ) < 2 ^ (53 : ℤ) := by exact_mod_cast hm
  calc (m * 2 ^ e : ℚ) < 2 ^ (53 : ℤ) * 2 ^ e := mul_lt_mul_of_pos_right hm' (two_zpow_pos e)
    _ = 2 ^ (53 + e) := (two_zpow_add 53 e).symm
    _ ≤ bound := two_zpow_le (by
        unfold maxExponent at he
        omega)

/-- A mantissa of 53 bits beyond the greatest exponent reaches the bound. -/
theorem bound_le_mul_two_zpow {m : ℕ} {e : ℤ} (hm : 2 ^ 52 ≤ m) (he : maxExponent < e) :
    bound ≤ (m * 2 ^ e : ℚ) := by
  have hm' : (2 : ℚ) ^ (52 : ℤ) ≤ m := by exact_mod_cast hm
  calc bound ≤ 2 ^ (52 + e) := two_zpow_le (by
        unfold maxExponent at he
        omega)
    _ = 2 ^ (52 : ℤ) * 2 ^ e := two_zpow_add 52 e
    _ ≤ m * 2 ^ e := mul_le_mul_of_nonneg_right hm' (two_zpow_pos e).le

/-- **A quotient is rounded.** -/
theorem isRounded_round (negative : Bool) (num : ℕ) {den : ℕ} (hden : 0 < den)
    (h : negative = true → num = 0) : IsRounded (round negative num den) (num / den) := by
  refine ⟨nearest num den, rounds_nearest num hden, ?_⟩
  rcases Nat.eq_zero_or_pos num with rfl | hnum
  · left
    rw [nearest_zero, round, if_pos rfl, zero]
    refine ⟨two_zpow_pos _, ?_⟩
    rw [value?_finite]
    cases negative <;> simp [signed]
  · obtain rfl : negative = false := by
      rw [← Bool.not_eq_true]
      intro htrue
      exact hnum.ne' (h htrue)
    have hvalue : ∀ (m : ℕ) (e : ℤ), (finite false m e).value? = some (m * 2 ^ e : ℚ) :=
      fun m e => rfl
    have hmantissa := mantissa_le hnum hden
    have hmin : minExponent < maxExponent := by decide
    rw [round_eq false hnum.ne', nearest]
    split
    · -- the carry moves the mantissa by one place
      rename_i hcarry
      have hsame : (mantissa num den * 2 ^ place num den : ℚ) =
          (2 ^ 52 : ℕ) * 2 ^ (place num den + 1) := by
        rw [hcarry, two_zpow_add, zpow_one]
        push_cast
        ring
      rw [hsame]
      split
      · rename_i hlarge
        exact .inr ⟨bound_le_mul_two_zpow le_rfl hlarge, rfl⟩
      · rename_i hsmall
        exact .inl ⟨mul_two_zpow_lt_bound (by norm_num) (not_lt.1 hsmall), hvalue _ _⟩
    · rename_i hcarry
      split
      · rename_i hlarge
        exact .inr ⟨bound_le_mul_two_zpow (le_mantissa hnum hden (hmin.trans hlarge)) hlarge, rfl⟩
      · rename_i hsmall
        exact .inl ⟨mul_two_zpow_lt_bound (by omega) (not_lt.1 hsmall), hvalue _ _⟩

/-- **An integer is rounded.** -/
theorem isRounded_ofInt {n : ℤ} (h : 0 ≤ n) : IsRounded (ofInt n) n := by
  obtain ⟨k, rfl⟩ := Int.eq_ofNat_of_zero_le h
  have hround := isRounded_round (decide ((k : ℤ) < 0)) k Nat.one_pos (by
    intro hneg
    have := of_decide_eq_true hneg
    omega)
  rw [Nat.cast_one, div_one] at hround
  rw [ofInt, Int.natAbs_natCast, Int.cast_natCast]
  exact hround

/-- A mantissa times a power of two is rounded. -/
theorem isRounded_ofScaled (negative : Bool) (m : ℕ) (h : negative = true → m = 0) (e : ℤ) :
    IsRounded (ofScaled negative m e) (m * 2 ^ e) := by
  obtain ⟨hpos, hdiv⟩ := unscaled_neg m e
  have hround := isRounded_round negative (unscaled m 1 (-e)).1 hpos (by
    intro hneg
    rw [h hneg]
    unfold unscaled
    split
    · rfl
    · exact Nat.zero_mul _)
  rw [hdiv] at hround
  exact hround

/-! ## Operations -/

/-- **A product of magnitudes is rounded.** -/
theorem isRounded_mul (hx : x.value? = some a) (ha : 0 ≤ a) (hy : y.value? = some b) (hb : 0 ≤ b) :
    IsRounded (x.mul y) (a * b) := by
  obtain ⟨s, m, e⟩ | _ | _ := x
  · obtain ⟨t, n, f⟩ | _ | _ := y
    · obtain rfl := Option.some.inj hx
      obtain rfl := Option.some.inj hy
      have hs := eq_zero_of_value ha
      have ht := eq_zero_of_value hb
      have hsign : (s != t) = true → m * n = 0 := by
        cases s
        · cases t
          · rintro ⟨⟩
          · intro _
            rw [ht rfl, Nat.mul_zero]
        · intro _
          rw [hs rfl, Nat.zero_mul]
      have hexact : (signed s m * 2 ^ e * (signed t n * 2 ^ f) : ℚ) =
          (m * n : ℕ) * 2 ^ (e + f) := by
        rw [signed_eq_of_nonneg hs, signed_eq_of_nonneg ht, two_zpow_add]
        push_cast
        ring
      rw [hexact]
      exact isRounded_ofScaled _ _ hsign (e + f)
    · cases hy
    · cases hy
  · cases hx
  · cases hx

/-- Zero is a magnitude rounded. -/
theorem isRounded_zero : IsRounded (zero false) 0 := by
  have hround := isRounded_round false 0 Nat.one_pos (fun _ => rfl)
  rwa [Nat.cast_zero, zero_div, round, if_pos rfl] at hround

/-- **A magnitude is rounded when it is added to zero.** -/
theorem isRounded_zero_add (hx : x.value? = some a) (ha : 0 ≤ a) :
    IsRounded ((zero false).add x) a := by
  obtain ⟨s, m, e⟩ | _ | _ := x
  · obtain rfl := Option.some.inj hx
    have hs := eq_zero_of_value ha
    rw [signed_eq_of_nonneg hs]
    set g := min minExponent e with hg
    set shifted := m * 2 ^ (e - g).toNat with hshifted
    have hexact : (m * 2 ^ e : ℚ) = shifted * 2 ^ g := by
      rw [hshifted, two_zpow_split (show g ≤ e by omega), Nat.cast_mul, mul_assoc]
    have hsum : signed false (0 * Nat.pow 2 (minExponent - g).toNat) + signed s shifted =
        shifted := by
      rw [signed_eq_of_nonneg (m := shifted)
        (fun htrue => by rw [hshifted, hs htrue, Nat.zero_mul])]
      simp [signed]
    have hadd : (zero false).add (finite s m e) =
        if (shifted : ℤ) = 0 then zero (false && s)
        else ofScaled (decide ((shifted : ℤ) < 0)) shifted g := by
      show (if signed false (0 * Nat.pow 2 (minExponent - g).toNat) + signed s shifted = 0 then _
        else ofScaled
          (decide (signed false (0 * Nat.pow 2 (minExponent - g).toNat) + signed s shifted < 0))
          (signed false (0 * Nat.pow 2 (minExponent - g).toNat) + signed s shifted).natAbs g) = _
      rw [hsum, Int.natAbs_natCast]
    rw [hadd, Int.cast_natCast, hexact]
    split
    · rename_i hzero
      obtain hzero : shifted = 0 := by omega
      rw [hzero, Nat.cast_zero, zero_mul]
      exact isRounded_zero
    · refine isRounded_ofScaled _ _ (fun hneg => ?_) g
      have := of_decide_eq_true hneg
      omega
  · cases hx
  · cases hx

/-! ## Powers of two -/

/-- The powers of two, as they are computed. -/
theorem powPositive_two (n : ℕ) :
    powPositive false (2 ^ 52) (-51) n =
      if 1100 < n then infinite false else ofScaled false 1 n := by
  have hreduced : reduced 64 (2 ^ 52) (-51) = (1, 1) := by decide
  have hlog : ((Nat.log2 1 : ℕ) : ℤ) + 1 = 1 := by decide
  have hnonneg : (0 : ℤ) ≤ n := Int.natCast_nonneg n
  have hnotlow : ¬(1 + 1 : ℤ) * n < -1200 := by omega
  have hpow : Nat.pow 1 n = 1 := Nat.one_pow n
  unfold powPositive
  simp only [hreduced, hlog, Int.natAbs_natCast, if_pos hnonneg, if_neg hnotlow, hpow, one_mul]
  exact if_congr (by omega) rfl rfl

/-- A power of two with a natural exponent is a number as long as it is computed to be one. -/
theorem pow_two_eq {n : ℕ} (h : n ≠ 0) :
    (ofInt 2).pow n =
      match powPositive false (2 ^ 52) (-51) n with
      | infinite _ => .error .outOfRange
      | y => .ok y := by
  have htwo : ofInt 2 = finite false (2 ^ 52) (-51) := by decide
  rw [htwo, pow, if_neg (by omega)]
  rfl

/-- A power of two is representable, and so is a number of its own. -/
theorem isRounded_ofScaled_one (n : ℕ) : IsRounded (ofScaled false 1 n) (2 ^ n) := by
  have hround := isRounded_ofScaled false 1 (fun h => absurd h Bool.false_ne_true) n
  rwa [Nat.cast_one, one_mul, zpow_natCast] at hround

/-- Powers of two with natural exponents are representable. -/
theorem isRepresentable_two_pow (n : ℕ) : IsRepresentable (2 ^ n) := by
  rw [← zpow_natCast]
  exact isRepresentable_two_zpow (le_trans (by decide) (Int.natCast_nonneg n))

/-- **The powers of two are numbers** as long as they are in range. -/
theorem exists_pow_two {n : ℕ} (h : n < 1024) :
    ∃ y, (ofInt 2).pow n = .ok y ∧ y.value? = some (2 ^ n) := by
  have hlt : (2 ^ n : ℚ) < bound := by
    rw [← zpow_natCast]
    exact zpow_lt_zpow_right₀ (by norm_num) (by omega)
  have hvalue := (isRounded_ofScaled_one n).value_eq (isRepresentable_two_pow n) hlt
  rcases Nat.eq_zero_or_pos n with rfl | hpos
  · refine ⟨ofInt 1, rfl, ?_⟩
    have hone := isRounded_ofInt (n := 1) (by decide)
    rw [Int.cast_one, ← pow_zero (2 : ℚ)] at hone
    exact hone.value_eq (isRepresentable_two_pow 0) hlt
  · refine ⟨ofScaled false 1 n, ?_, hvalue⟩
    rw [pow_two_eq hpos.ne', powPositive_two, if_neg (by omega)]
    cases hy : ofScaled false 1 n with
    | finite s m e => rfl
    | infinite s =>
      rw [hy] at hvalue
      cases hvalue
    | notANumber => rfl

/-- **A power of two that is out of range is an error.** -/
theorem pow_two_of_ge {n : ℕ} (h : 1024 ≤ n) : (ofInt 2).pow n = .error .outOfRange := by
  have hinfinite : powPositive false (2 ^ 52) (-51) n = infinite false := by
    rw [powPositive_two]
    split
    · rfl
    · refine (isRounded_ofScaled_one n).eq_infinite (range_lt_bound.le.trans ?_)
      rw [← zpow_natCast]
      exact two_zpow_le (by omega)
  rw [pow_two_eq (by omega), hinfinite]

end CloudClient.Binary64
