import CloudClient.Number.Binary64
import Mathlib.Algebra.Order.Field.Power
import Mathlib.Algebra.Order.Field.Rat
import Mathlib.Tactic.FieldSimp
import Mathlib.Tactic.Linarith
import Mathlib.Tactic.Positivity
import Mathlib.Tactic.Ring

/-!
# Rounding to the nearest double-precision number

A finite number stands for a rational one. Rounding is described by what it leaves, exponents having
no upper bound at first: a representable number that is at least as close to the exact one as any
other. Main statements: a quotient is rounded to a closest representable number; rounding crosses no
representable number, and reaches a power of two exactly from the middle below it; and a proper
share of a number is rounded to a smaller one.
-/

namespace CloudClient.Binary64

/-- The rational number that a finite number stands for. -/
def value? : Binary64 → Option ℚ
  | finite negative m e => some (signed negative m * 2 ^ e)
  | _ => none

/-- The magnitudes of 53 bits, without an upper bound on the exponent. -/
def IsRepresentable (v : ℚ) : Prop :=
  ∃ (m : ℕ) (e : ℤ), m < 2 ^ 53 ∧ minExponent ≤ e ∧ v = m * 2 ^ e

/-! ## Powers of two -/

/-- Powers of two are positive. -/
theorem two_zpow_pos (e : ℤ) : (0 : ℚ) < 2 ^ e := zpow_pos (by norm_num) e

/-- Exponents of powers of two add up. -/
theorem two_zpow_add (a b : ℤ) : (2 : ℚ) ^ (a + b) = 2 ^ a * 2 ^ b := zpow_add₀ (by norm_num) a b

/-- Powers of two grow with the exponent. -/
theorem two_zpow_le {a b : ℤ} (h : a ≤ b) : (2 : ℚ) ^ a ≤ 2 ^ b :=
  zpow_le_zpow_right₀ (by norm_num) h

/-- A power of two with a natural exponent is a natural number. -/
theorem two_zpow_natCast (n : ℕ) : (2 : ℚ) ^ (n : ℤ) = (2 ^ n : ℕ) := by
  rw [zpow_natCast, Nat.cast_pow, Nat.cast_ofNat]

/-- A power of two between an exponent and a larger one is a natural number. -/
theorem two_zpow_split {a b : ℤ} (h : a ≤ b) : (2 : ℚ) ^ b = (2 ^ (b - a).toNat : ℕ) * 2 ^ a := by
  rw [← two_zpow_natCast, Int.toNat_of_nonneg (by omega), ← two_zpow_add]
  congr 1
  omega

/-! ## The steps of rounding -/

section Steps

variable {num den : ℕ}

/-- Division by a power of two, as numerator and denominator. -/
theorem unscaled_div (num : ℕ) (hden : 0 < den) (e : ℤ) :
    0 < (unscaled num den e).2 ∧
      ((unscaled num den e).1 : ℚ) / (unscaled num den e).2 = num / den / 2 ^ e := by
  have hd : (den : ℚ) ≠ 0 := by exact_mod_cast hden.ne'
  unfold unscaled
  split
  · rename_i he
    constructor
    · exact Nat.mul_pos hden (Nat.pow_pos (by decide))
    · obtain ⟨n, rfl⟩ := Int.eq_ofNat_of_zero_le he
      show (num : ℚ) / ((den * 2 ^ n : ℕ) : ℚ) = _
      rw [two_zpow_natCast, Nat.cast_mul, div_div]
  · rename_i he
    constructor
    · exact hden
    · obtain ⟨n, hn⟩ := Int.eq_ofNat_of_zero_le (a := -e) (by omega)
      obtain rfl : e = -(n : ℤ) := by omega
      show ((num * 2 ^ (- -(n : ℤ)).toNat : ℕ) : ℚ) / den = _
      rw [neg_neg, Int.toNat_natCast, zpow_neg, two_zpow_natCast, div_inv_eq_mul, Nat.cast_mul,
        mul_div_right_comm]

/-- The size of a natural number. -/
theorem two_zpow_log2 {n : ℕ} (h : 0 < n) :
    (2 : ℚ) ^ (Nat.log2 n : ℤ) ≤ n ∧ (n : ℚ) < 2 ^ ((Nat.log2 n : ℤ) + 1) := by
  have hsucc : (Nat.log2 n : ℤ) + 1 = ((Nat.log2 n + 1 : ℕ) : ℤ) := by omega
  rw [hsucc, two_zpow_natCast, two_zpow_natCast]
  constructor
  · exact_mod_cast Nat.log2_self_le h.ne'
  · exact_mod_cast Nat.lt_log2_self

/-- **The size of a quotient**: the largest power of two that is at most the quotient. -/
theorem two_zpow_log2Quotient (hnum : 0 < num) (hden : 0 < den) :
    (2 : ℚ) ^ log2Quotient num den ≤ num / den ∧
    (num / den : ℚ) < 2 ^ (log2Quotient num den + 1) := by
  obtain ⟨hn, hn'⟩ := two_zpow_log2 hnum
  obtain ⟨hd, hd'⟩ := two_zpow_log2 hden
  have hdpos : (0 : ℚ) < den := by exact_mod_cast hden
  set k : ℤ := (Nat.log2 num : ℤ) - Nat.log2 den with hk
  obtain ⟨hpos, hdiv⟩ := unscaled_div num hden k
  have hpos' : (0 : ℚ) < (unscaled num den k).2 := by exact_mod_cast hpos
  -- the quotient of the two sizes is right, or one too large
  have hlow : (2 : ℚ) ^ (k - 1) ≤ num / den := by
    rw [le_div_iff₀ hdpos]
    calc (2 : ℚ) ^ (k - 1) * den ≤ 2 ^ (k - 1) * 2 ^ ((Nat.log2 den : ℤ) + 1) :=
          mul_le_mul_of_nonneg_left hd'.le (two_zpow_pos _).le
      _ = 2 ^ (Nat.log2 num : ℤ) := by
          rw [← two_zpow_add]
          congr 1
          omega
      _ ≤ num := hn
  have hhigh : (num / den : ℚ) < 2 ^ (k + 1) := by
    rw [div_lt_iff₀ hdpos]
    calc (num : ℚ) < 2 ^ ((Nat.log2 num : ℤ) + 1) := hn'
      _ = 2 ^ (k + 1) * 2 ^ (Nat.log2 den : ℤ) := by
          rw [← two_zpow_add]
          congr 1
          omega
      _ ≤ 2 ^ (k + 1) * den := mul_le_mul_of_nonneg_left hd (two_zpow_pos _).le
  have hcompare : (unscaled num den k).2 ≤ (unscaled num den k).1 ↔ (2 : ℚ) ^ k ≤ num / den := by
    rw [← one_le_div (two_zpow_pos k), ← hdiv, one_le_div hpos', Nat.cast_le]
  have hdef : log2Quotient num den =
      if (unscaled num den k).2 ≤ (unscaled num den k).1 then k else k - 1 := rfl
  rw [hdef]
  split
  · rename_i hle
    exact ⟨hcompare.1 hle, hhigh⟩
  · rename_i hle
    refine ⟨hlow, ?_⟩
    rw [sub_add_cancel]
    exact not_le.1 fun h => hle (hcompare.2 h)

/-- Rounding to an integer is off by at most half. -/
theorem abs_divideToEven_sub_le (num : ℕ) (hden : 0 < den) :
    |(divideToEven num den : ℚ) - num / den| ≤ 1 / 2 := by
  obtain ⟨hlow, hhigh⟩ := divideToEven_bounds num hden
  have hdpos : (0 : ℚ) < den := by exact_mod_cast hden
  have hlow' : (2 * num : ℚ) ≤ 2 * (den * divideToEven num den) + den := by exact_mod_cast hlow
  have hhigh' : (2 * (den * divideToEven num den) : ℚ) ≤ 2 * num + den := by exact_mod_cast hhigh
  have hquot : (num : ℚ) = num / den * den := by field_simp
  set q : ℚ := num / den
  rw [hquot] at hlow' hhigh'
  rw [abs_le]
  constructor
  · nlinarith
  · nlinarith

/-- A tie above an odd integer is rounded up. -/
theorem succ_le_divideToEven {n : ℕ} (hden : 0 < den) (hodd : n % 2 = 1)
    (h : (n : ℚ) + 1 / 2 ≤ num / den) : n + 1 ≤ divideToEven num den := by
  have hdpos : (0 : ℚ) < den := by exact_mod_cast hden
  rw [le_div_iff₀ hdpos] at h
  have hnum : (2 * n + 1) * den ≤ 2 * num := by
    have hcast : ((2 * n + 1) * den : ℚ) ≤ 2 * num := by linarith
    exact_mod_cast hcast
  have hdiv := Nat.div_add_mod num den
  have hmod := Nat.mod_lt num hden
  have hquot : n ≤ num / den := by
    rw [Nat.le_div_iff_mul_le hden]
    nlinarith
  unfold divideToEven
  simp only [Bool.or_eq_true, Bool.and_eq_true, decide_eq_true_eq, beq_iff_eq]
  split
  · omega
  · rename_i hdown
    rcases Nat.lt_or_ge n (num / den) with hlt | hge
    · omega
    · obtain rfl : n = num / den := by omega
      have hrest : den ≤ 2 * (num % den) := by nlinarith
      omega

/-- The exponent of the place to which a quotient is rounded. -/
def place (num den : ℕ) : ℤ := max (log2Quotient num den - 52) minExponent

/-- The mantissa of a quotient in its place. -/
def mantissa (num den : ℕ) : ℕ :=
  divideToEven (unscaled num den (place num den)).1 (unscaled num den (place num den)).2

/-- The number to which a quotient is rounded when exponents have no upper bound. -/
def nearest (num den : ℕ) : ℚ := mantissa num den * 2 ^ place num den

/-- The mantissa is the quotient in its place, rounded to an integer. -/
theorem abs_mantissa_sub_le (num : ℕ) (hden : 0 < den) :
    |(mantissa num den : ℚ) - num / den / 2 ^ place num den| ≤ 1 / 2 := by
  obtain ⟨hpos, hdiv⟩ := unscaled_div num hden (place num den)
  rw [← hdiv]
  exact abs_divideToEven_sub_le _ hpos

/-- A quotient has at most 53 bits before its place. -/
theorem div_place_lt (hnum : 0 < num) (hden : 0 < den) :
    (num / den / 2 ^ place num den : ℚ) < 2 ^ 53 := by
  rw [div_lt_iff₀ (two_zpow_pos _), ← zpow_natCast (2 : ℚ) 53, ← two_zpow_add]
  refine (two_zpow_log2Quotient hnum hden).2.trans_le (two_zpow_le ?_)
  have hplace : log2Quotient num den - 52 ≤ place num den := le_max_left _ _
  push_cast
  omega

/-- A quotient has 53 bits before its place unless that is the last place of all. -/
theorem le_div_place (hnum : 0 < num) (hden : 0 < den) (h : minExponent < place num den) :
    (2 : ℚ) ^ 52 ≤ num / den / 2 ^ place num den := by
  rw [le_div_iff₀ (two_zpow_pos _), ← zpow_natCast (2 : ℚ) 52, ← two_zpow_add]
  refine le_trans (two_zpow_le ?_) (two_zpow_log2Quotient hnum hden).1
  have hplace : place num den = log2Quotient num den - 52 := by
    unfold place at h ⊢
    omega
  push_cast
  omega

/-- The mantissa has 53 bits, or is the first number of 54 bits. -/
theorem mantissa_le (hnum : 0 < num) (hden : 0 < den) : mantissa num den ≤ 2 ^ 53 := by
  have hclose := abs_le.1 (abs_mantissa_sub_le num hden)
  have hlt := div_place_lt hnum hden
  have hcast : (mantissa num den : ℚ) < (2 ^ 53 + 1 : ℕ) := by
    push_cast
    linarith [hclose.2]
  have hnat : mantissa num den < 2 ^ 53 + 1 := by exact_mod_cast hcast
  omega

/-- The mantissa has no fewer than 53 bits unless it stands in the last place of all. -/
theorem le_mantissa (hnum : 0 < num) (hden : 0 < den) (h : minExponent < place num den) :
    2 ^ 52 ≤ mantissa num den := by
  have hclose := abs_le.1 (abs_mantissa_sub_le num hden)
  have hle := le_div_place hnum hden h
  have hcast : ((2 ^ 52 : ℕ) : ℚ) < (mantissa num den + 1 : ℕ) := by
    push_cast
    linarith [hclose.1]
  have hnat : 2 ^ 52 < mantissa num den + 1 := by exact_mod_cast hcast
  omega

end Steps

/-! ## Representable magnitudes -/

/-- The magnitudes of 53 bits are those of a mantissa and an exponent. -/
theorem isRepresentable_mul {m : ℕ} {e : ℤ} (hm : m ≤ 2 ^ 53) (he : minExponent ≤ e) :
    IsRepresentable (m * 2 ^ e) := by
  rcases Nat.lt_or_ge m (2 ^ 53) with hlt | hge
  · exact ⟨m, e, hlt, he, rfl⟩
  · obtain rfl : m = 2 ^ 53 := by omega
    refine ⟨2 ^ 52, e + 1, by norm_num, by omega, ?_⟩
    rw [two_zpow_add]
    push_cast
    ring

/-- The powers of two are representable. -/
theorem isRepresentable_two_zpow {k : ℤ} (h : minExponent ≤ k) : IsRepresentable (2 ^ k) := by
  simpa using isRepresentable_mul (m := 1) (by norm_num) h

/-- A representable magnitude is not negative. -/
theorem IsRepresentable.nonneg {v : ℚ} (h : IsRepresentable v) : 0 ≤ v := by
  obtain ⟨m, e, -, -, rfl⟩ := h
  exact mul_nonneg (Nat.cast_nonneg m) (two_zpow_pos e).le

/-- Zero is representable. -/
theorem isRepresentable_zero : IsRepresentable 0 := by
  simpa using isRepresentable_mul (m := 0) (by norm_num) (le_refl minExponent)

/-- A representable magnitude may be multiplied by a power of two. -/
theorem IsRepresentable.mul_two_pow {v : ℚ} (h : IsRepresentable v) (n : ℕ) :
    IsRepresentable (v * 2 ^ n) := by
  obtain ⟨m, e, hm, he, rfl⟩ := h
  refine ⟨m, e + n, hm, by omega, ?_⟩
  rw [two_zpow_add, zpow_natCast, mul_assoc]

/-- A representable magnitude from one on has exactly 53 bits. -/
theorem IsRepresentable.exists_normal {v : ℚ} (h : IsRepresentable v) (hone : 1 ≤ v) :
    ∃ (n : ℕ) (f : ℤ), 2 ^ 52 ≤ n ∧ n < 2 ^ 53 ∧ -52 ≤ f ∧ v = n * 2 ^ f := by
  obtain ⟨m, e, hm, -, rfl⟩ := h
  have hpos : 0 < m := by
    rcases Nat.eq_zero_or_pos m with rfl | hpos
    · norm_num at hone
    · exact hpos
  have hlow : 2 ^ m.log2 ≤ m := Nat.log2_self_le hpos.ne'
  have hhigh : m < 2 ^ (m.log2 + 1) := Nat.lt_log2_self
  have hbits : m.log2 ≤ 52 := by
    have hlt : 2 ^ m.log2 < 2 ^ 53 := hlow.trans_lt hm
    have := (Nat.pow_lt_pow_iff_right (by decide : 1 < 2)).1 hlt
    omega
  have hshift : 2 ^ 52 = 2 ^ m.log2 * 2 ^ (52 - m.log2) := by
    rw [← pow_add]
    congr 1
    omega
  have hshift' : 2 ^ 53 = 2 ^ (m.log2 + 1) * 2 ^ (52 - m.log2) := by
    rw [← pow_add]
    congr 1
    omega
  have hvalue : (m * 2 ^ e : ℚ) = (m * 2 ^ (52 - m.log2) : ℕ) * 2 ^ (e - (52 - m.log2 : ℕ)) := by
    rw [Nat.cast_mul, Nat.cast_pow, Nat.cast_ofNat, mul_assoc, ← zpow_natCast (2 : ℚ),
      ← two_zpow_add]
    congr 2
    omega
  have hlt : m * 2 ^ (52 - m.log2) < 2 ^ 53 := by
    rw [hshift']
    exact Nat.mul_lt_mul_of_pos_right hhigh (Nat.two_pow_pos _)
  refine ⟨m * 2 ^ (52 - m.log2), e - (52 - m.log2 : ℕ), ?_, hlt, ?_, hvalue⟩
  · rw [hshift]
    exact Nat.mul_le_mul_right _ hlow
  · -- a smaller exponent would make the magnitude smaller than one
    by_contra hsmall
    have hcast : ((m * 2 ^ (52 - m.log2) : ℕ) : ℚ) < (2 ^ 53 : ℕ) := by exact_mod_cast hlt
    have hbelow : ((m * 2 ^ (52 - m.log2) : ℕ) * 2 ^ (e - (52 - m.log2 : ℕ)) : ℚ) < 1 :=
      calc ((m * 2 ^ (52 - m.log2) : ℕ) * 2 ^ (e - (52 - m.log2 : ℕ)) : ℚ)
          ≤ (m * 2 ^ (52 - m.log2) : ℕ) * 2 ^ (-53 : ℤ) :=
            mul_le_mul_of_nonneg_left (two_zpow_le (by omega)) (Nat.cast_nonneg _)
        _ < (2 ^ 53 : ℕ) * 2 ^ (-53 : ℤ) := mul_lt_mul_of_pos_right hcast (two_zpow_pos _)
        _ = 1 := by norm_num
    rw [hvalue] at hone
    exact absurd hone (not_le.2 hbelow)

/-- A representable magnitude below one is below it by half a place at least. -/
theorem IsRepresentable.le_of_lt_one {v : ℚ} (h : IsRepresentable v) (hlt : v < 1) :
    v ≤ 1 - 1 / 2 ^ 53 := by
  obtain ⟨m, e, hm, -, rfl⟩ := h
  rcases le_or_gt (-53) e with he | he
  · rw [two_zpow_split he, ← mul_assoc, ← Nat.cast_mul] at hlt ⊢
    have hpow : (2 : ℚ) ^ (-53 : ℤ) = 1 / 2 ^ 53 := by norm_num
    rw [hpow] at hlt ⊢
    have hcast : ((m * 2 ^ (e - -53).toNat : ℕ) : ℚ) < (2 ^ 53 : ℕ) := by
      push_cast at hlt ⊢
      linarith
    have hnat : m * 2 ^ (e - -53).toNat < 2 ^ 53 := by exact_mod_cast hcast
    have hle : ((m * 2 ^ (e - -53).toNat : ℕ) : ℚ) ≤ (2 ^ 53 - 1 : ℕ) := by
      exact_mod_cast Nat.le_sub_one_of_lt hnat
    push_cast at hle ⊢
    linarith
  · have hm' : (m : ℚ) ≤ 2 ^ 53 := by exact_mod_cast hm.le
    calc (m * 2 ^ e : ℚ) ≤ 2 ^ 53 * 2 ^ (-54 : ℤ) :=
          mul_le_mul hm' (two_zpow_le (by omega)) (two_zpow_pos e).le (by positivity)
      _ ≤ 1 - 1 / 2 ^ 53 := by norm_num

/-! ## What rounding leaves -/

/-- A magnitude is rounded to a representable number that is as close to it as any other; and where
it lies in the middle below a power of two, or above that, the power is reached. -/
structure Rounds (q w : ℚ) : Prop where
  representable : IsRepresentable w
  closest : ∀ v, IsRepresentable v → |w - q| ≤ |v - q|
  reaches : ∀ k : ℤ, minExponent + 53 ≤ k → 2 ^ k - 2 ^ (k - 54) ≤ q → 2 ^ k ≤ w

section Closest

variable {q w v : ℚ}

/-- Going to a closest number does not cross a representable one downwards. -/
theorem le_of_closest (h : ∀ v, IsRepresentable v → |w - q| ≤ |v - q|) (hv : IsRepresentable v)
    (hle : v ≤ q) : v ≤ w := by
  by_contra hlt
  have hclose := h v hv
  rw [abs_sub_comm w, abs_sub_comm v, abs_of_nonneg (by linarith : 0 ≤ q - w),
    abs_of_nonneg (by linarith : 0 ≤ q - v)] at hclose
  linarith

/-- Going to a closest number does not cross a representable one upwards. -/
theorem ge_of_closest (h : ∀ v, IsRepresentable v → |w - q| ≤ |v - q|) (hv : IsRepresentable v)
    (hle : q ≤ v) : w ≤ v := by
  by_contra hlt
  have hclose := h v hv
  rw [abs_of_nonneg (by linarith : 0 ≤ w - q), abs_of_nonneg (by linarith : 0 ≤ v - q)] at hclose
  linarith

end Closest

/-- **The result of rounding is as close as any representable number.** -/
theorem abs_nearest_sub_le {num den : ℕ} (hnum : 0 < num) (hden : 0 < den) {v : ℚ}
    (hv : IsRepresentable v) :
    |nearest num den - num / den| ≤ |v - num / den| := by
  set e := place num den with he
  set x : ℚ := num / den / 2 ^ e with hx
  have hpow := two_zpow_pos e
  have hq : (num / den : ℚ) = x * 2 ^ e := by
    rw [hx, div_mul_cancel₀ _ hpow.ne']
  have hclose : |(mantissa num den : ℚ) - x| ≤ 1 / 2 := abs_mantissa_sub_le num hden
  -- among the numbers of this place the mantissa is the closest
  have hplace : ∀ n : ℕ, |nearest num den - num / den| ≤ |(n * 2 ^ e : ℚ) - num / den| := by
    intro n
    rw [nearest, ← he, hq, ← sub_mul, ← sub_mul, abs_mul, abs_mul]
    refine mul_le_mul_of_nonneg_right ?_ (abs_nonneg _)
    by_cases hn : n = mantissa num den
    · rw [hn]
    · have hone : (1 : ℚ) ≤ |(n : ℚ) - mantissa num den| := by
        have hint : (1 : ℤ) ≤ |(n : ℤ) - mantissa num den| := Int.one_le_abs (by omega)
        exact_mod_cast hint
      have htriangle := abs_sub_le (n : ℚ) x (mantissa num den)
      rw [abs_sub_comm x] at htriangle
      linarith
  obtain ⟨m, f, hm, hf, rfl⟩ := hv
  rcases le_or_gt e f with hef | hef
  · rw [two_zpow_split hef, ← mul_assoc, ← Nat.cast_mul]
    exact hplace _
  · -- numbers of a smaller place lie below the first number of this one, and that lies below the
    -- quotient
    have hmin : minExponent < e := by omega
    have hfirst : ((2 ^ 52 : ℕ) * 2 ^ e : ℚ) ≤ num / den := by
      rw [hq]
      refine mul_le_mul_of_nonneg_right ?_ hpow.le
      exact_mod_cast le_div_place hnum hden hmin
    have hbelow : (m * 2 ^ f : ℚ) ≤ (2 ^ 52 : ℕ) * 2 ^ e := by
      have hm' : (m : ℚ) ≤ 2 ^ 53 := by exact_mod_cast hm.le
      calc (m * 2 ^ f : ℚ) ≤ 2 ^ 53 * 2 ^ (e - 1) :=
            mul_le_mul hm' (two_zpow_le (by omega)) (two_zpow_pos f).le (by positivity)
        _ = (2 ^ 52 : ℕ) * 2 ^ e := by
            rw [show e = e - 1 + 1 by omega, two_zpow_add, add_sub_cancel_right]
            push_cast
            ring
    refine (hplace (2 ^ 52)).trans ?_
    rw [abs_sub_comm, abs_sub_comm (m * 2 ^ f : ℚ), abs_of_nonneg (sub_nonneg.2 hfirst),
      abs_of_nonneg (sub_nonneg.2 (hbelow.trans hfirst))]
    exact sub_le_sub_left hbelow _

/-- A quotient whose size is known has the place that goes with it. -/
theorem place_eq {num den : ℕ} (hnum : 0 < num) (hden : 0 < den) {k : ℤ} (hk : minExponent + 53 ≤ k)
    (hlow : (2 : ℚ) ^ (k - 1) ≤ num / den) (hhigh : (num / den : ℚ) < 2 ^ k) :
    place num den = k - 53 := by
  obtain ⟨hle, hlt⟩ := two_zpow_log2Quotient hnum hden
  have hbelow : log2Quotient num den < k :=
    (zpow_lt_zpow_iff_right₀ (by norm_num : (1 : ℚ) < 2)).1 (hle.trans_lt hhigh)
  have habove : k - 1 < log2Quotient num den + 1 :=
    (zpow_lt_zpow_iff_right₀ (by norm_num : (1 : ℚ) < 2)).1 (hlow.trans_lt hlt)
  unfold place
  omega

/-- **A quotient in the middle below a power of two is rounded up to it**, as the mantissa below is
odd. -/
theorem two_zpow_le_nearest {num den : ℕ} (hnum : 0 < num) (hden : 0 < den) {k : ℤ}
    (hk : minExponent + 53 ≤ k) (h : (2 : ℚ) ^ k - 2 ^ (k - 54) ≤ num / den)
    (hlt : (num / den : ℚ) < 2 ^ k) : (2 : ℚ) ^ k ≤ nearest num den := by
  have hsplit : ∀ n : ℕ, (2 : ℚ) ^ k = 2 ^ n * 2 ^ (k - n) := by
    intro n
    rw [← zpow_natCast, ← two_zpow_add]
    congr 1
    omega
  have hhalf : (2 : ℚ) ^ (k - 1) ≤ num / den := by
    refine le_trans ?_ h
    have hsmall : (2 : ℚ) ^ (k - 54) ≤ 2 ^ (k - 1) := two_zpow_le (by omega)
    have htwice := hsplit 1
    push_cast at htwice
    linarith
  have hplace := place_eq hnum hden hk hhalf hlt
  have hmiddle : ((2 ^ 53 - 1 : ℕ) : ℚ) + 1 / 2 ≤
      (unscaled num den (place num den)).1 / (unscaled num den (place num den)).2 := by
    rw [(unscaled_div num hden _).2, hplace, le_div_iff₀ (two_zpow_pos _)]
    have hfine : (2 : ℚ) ^ (k - 53) = 2 * 2 ^ (k - 54) := by
      rw [show k - 53 = 1 + (k - 54) by omega, two_zpow_add, zpow_one]
    have hcoarse := hsplit 53
    push_cast at hcoarse ⊢
    rw [hcoarse] at h
    rw [hfine] at h ⊢
    linarith
  have hcarry : 2 ^ 53 - 1 + 1 ≤ mantissa num den :=
    succ_le_divideToEven (unscaled_div num hden _).1 (by norm_num) hmiddle
  have hcast : ((2 ^ 53 : ℕ) : ℚ) ≤ mantissa num den := by exact_mod_cast hcarry
  calc (2 : ℚ) ^ k = (2 ^ 53 : ℕ) * 2 ^ (k - 53) := by
        rw [hsplit 53]
        push_cast
        rfl
    _ ≤ mantissa num den * 2 ^ (k - 53) := mul_le_mul_of_nonneg_right hcast (two_zpow_pos _).le
    _ = nearest num den := by rw [nearest, hplace]

/-- Zero is rounded to zero. -/
theorem nearest_zero (den : ℕ) : nearest 0 den = 0 := by
  have hnum : ∀ e, (unscaled 0 den e).1 = 0 := by
    intro e
    unfold unscaled
    split
    · rfl
    · exact Nat.zero_mul _
  rw [nearest, mantissa, hnum, divideToEven]
  simp

/-- **A quotient is rounded to a closest representable number.** -/
theorem rounds_nearest (num : ℕ) {den : ℕ} (hden : 0 < den) :
    Rounds (num / den) (nearest num den) := by
  rcases Nat.eq_zero_or_pos num with rfl | hnum
  · rw [nearest_zero, Nat.cast_zero, zero_div]
    refine ⟨isRepresentable_zero, fun v hv => by simp, fun k hk hle => ?_⟩
    have hlt : (2 : ℚ) ^ (k - 54) < 2 ^ k := zpow_lt_zpow_right₀ (by norm_num) (by omega)
    linarith
  · refine ⟨isRepresentable_mul (mantissa_le hnum hden) (le_max_right _ _),
      fun v hv => abs_nearest_sub_le hnum hden hv, fun k hk hle => ?_⟩
    rcases lt_or_ge (num / den : ℚ) (2 ^ k) with hlt | hge
    · exact two_zpow_le_nearest hnum hden hk hle hlt
    · exact le_of_closest (fun v => abs_nearest_sub_le hnum hden)
        (isRepresentable_two_zpow (by omega)) hge

namespace Rounds

variable {q w v : ℚ}

section

variable (h : Rounds q w)

include h

/-- Rounding does not cross a representable number downwards. -/
theorem le_of_le (hv : IsRepresentable v) (hle : v ≤ q) : v ≤ w := le_of_closest h.closest hv hle

/-- Rounding does not cross a representable number upwards. -/
theorem ge_of_ge (hv : IsRepresentable v) (hle : q ≤ v) : w ≤ v := ge_of_closest h.closest hv hle

/-- A representable number is rounded to itself. -/
theorem eq_of_isRepresentable (hq : IsRepresentable q) : w = q :=
  le_antisymm (h.ge_of_ge hq le_rfl) (h.le_of_le hq le_rfl)

/-- **A power of two is reached exactly from the middle below it.** -/
theorem lt_two_zpow_iff {k : ℤ} (hk : minExponent + 53 ≤ k) :
    w < 2 ^ k ↔ q < 2 ^ k - 2 ^ (k - 54) := by
  constructor
  · intro hw
    by_contra hq
    exact absurd (h.reaches k hk (not_lt.1 hq)) (not_le.2 hw)
  · intro hq
    -- the number before the power is closer than the power itself
    have hbefore : IsRepresentable ((2 ^ 53 - 1 : ℕ) * 2 ^ (k - 53)) :=
      isRepresentable_mul (by norm_num) (by omega)
    have hfine : (2 : ℚ) ^ (k - 53) = 2 * 2 ^ (k - 54) := by
      rw [show k - 53 = 1 + (k - 54) by omega, two_zpow_add, zpow_one]
    have hcoarse : (2 : ℚ) ^ k = 2 ^ 53 * 2 ^ (k - 53) := by
      rw [← zpow_natCast (2 : ℚ) 53, ← two_zpow_add]
      congr 1
      push_cast
      omega
    have hvalue : ((2 ^ 53 - 1 : ℕ) * 2 ^ (k - 53) : ℚ) = 2 ^ k - 2 * 2 ^ (k - 54) := by
      rw [hcoarse, ← hfine]
      push_cast
      ring
    rw [hvalue] at hbefore
    have hpos := two_zpow_pos (k - 54)
    by_contra hw
    rw [not_lt] at hw
    rcases le_or_gt q (2 ^ k - 2 * 2 ^ (k - 54)) with hle | hgt
    · have := h.ge_of_ge hbefore hle
      linarith
    · have hclose := h.closest _ hbefore
      rw [abs_of_nonneg (by linarith : 0 ≤ w - q), abs_sub_comm,
        abs_of_nonneg (by linarith : 0 ≤ q - (2 ^ k - 2 * 2 ^ (k - 54)))] at hclose
      linarith

end

/-- **A proper share of a number is rounded to a smaller one.** -/
theorem lt_of_share {x s : ℚ} (h : Rounds (x * s) w) (hx : IsRepresentable x) (hone : 1 ≤ x)
    (hs : IsRepresentable s) (hlt : s < 1) : w < x := by
  obtain ⟨n, f, hn, hn', hf, rfl⟩ := hx.exists_normal hone
  have hpow := two_zpow_pos f
  have hshare := mul_le_mul_of_nonneg_left (hs.le_of_lt_one hlt) (mul_nonneg n.cast_nonneg hpow.le)
  have hmin : minExponent + 52 ≤ f := le_trans (by decide) hf
  by_contra hw
  rw [not_lt] at hw
  have hbefore : IsRepresentable ((n - 1 : ℕ) * 2 ^ f) := isRepresentable_mul (by omega) (by omega)
  have hcast : ((n - 1 : ℕ) : ℚ) = n - 1 := by
    rw [Nat.cast_sub (by omega), Nat.cast_one]
  rw [hcast] at hbefore
  rcases Nat.eq_or_lt_of_le hn with rfl | hn
  · -- below a power of two the places are half as wide, and the share is at most the number before
    -- it
    have hhalf : IsRepresentable ((2 ^ 53 - 1 : ℕ) * 2 ^ (f - 1)) :=
      isRepresentable_mul (by norm_num) (by omega)
    have hwidth : (2 : ℚ) ^ f = 2 * 2 ^ (f - 1) := by
      rw [show f = 1 + (f - 1) by omega, two_zpow_add, zpow_one, add_sub_cancel_left]
    have hle := h.ge_of_ge hhalf (by
      push_cast
      push_cast at hshare
      rw [hwidth] at hshare ⊢
      linarith)
    push_cast at hle hw
    rw [hwidth] at hw hpow
    linarith
  · -- elsewhere the share is closer to the number before
    have hgt : (2 ^ 52 + 1 : ℚ) ≤ n := by exact_mod_cast hn
    have hquot : (n * 2 ^ f * s : ℚ) < n * 2 ^ f - 2 ^ f / 2 := by
      have hmore : (2 ^ 52 + 1 : ℚ) * 2 ^ f ≤ n * 2 ^ f := mul_le_mul_of_nonneg_right hgt hpow.le
      linarith
    rcases le_or_gt (n * 2 ^ f * s : ℚ) ((n - 1) * 2 ^ f) with hle | hgt
    · have := h.ge_of_ge hbefore hle
      linarith
    · have hclose := h.closest _ hbefore
      rw [abs_of_nonneg (by linarith : 0 ≤ w - n * 2 ^ f * s), abs_sub_comm,
        abs_of_nonneg (by linarith : 0 ≤ (n * 2 ^ f * s : ℚ) - (n - 1) * 2 ^ f)] at hclose
      linarith

/-- **A proper share of a rounded number is at most the number that was rounded**, as that is
between the share and what it was rounded to. -/
theorem le_of_share {t x s : ℚ} (hx : Rounds t x) (h : Rounds (x * s) w)
    (ht : IsRepresentable t ∨ 1 ≤ t) (hs : IsRepresentable s) (hlt : s < 1) : w ≤ t := by
  rcases ht with ht | ht
  · obtain rfl := hx.eq_of_isRepresentable ht
    exact h.ge_of_ge ht (mul_le_of_le_one_right ht.nonneg hlt.le)
  · have hone : 1 ≤ x :=
      hx.le_of_le (by simpa using isRepresentable_two_zpow (k := 0) (by decide)) ht
    have hless := h.lt_of_share hx.representable hone hs hlt
    by_contra hgt
    exact absurd (hx.ge_of_ge h.representable (not_le.1 hgt).le) (not_le.2 hless)

end Rounds

end CloudClient.Binary64
