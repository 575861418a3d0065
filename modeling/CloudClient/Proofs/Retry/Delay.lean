import CloudClient.Retry.Policy

/-!
# Waits as numbers

A wait that is a floating-point number of milliseconds is one of seconds as well: dividing by a
thousand lowers the exponent, so the rounded quotient is never out of range.
-/

namespace CloudClient

namespace Binary64

/-- The quotient of an integer by one has the size of the integer. -/
theorem log2Quotient_one (n : Nat) (hn : n ≠ 0) : log2Quotient n 1 = Nat.log2 n := by
  have hone : (Nat.log2 1 : Int) = 0 := rfl
  have hpow : 2 ^ Nat.log2 n ≤ n := Nat.log2_self_le hn
  have hscaled : unscaled n 1 (Nat.log2 n : Int) = (n, 1 * Nat.pow 2 (Nat.log2 n)) := by
    rw [unscaled, if_pos (Int.natCast_nonneg _), Int.toNat_natCast]
  simp only [log2Quotient, hone, Int.sub_zero, hscaled, Nat.one_mul]
  exact if_pos hpow

/-- The quotient of an integer by a thousand is smaller in size than the integer. -/
theorem log2Quotient_thousand_lt (n : Nat) (hn : n ≠ 0) :
    log2Quotient n 1000 < log2Quotient n 1 := by
  have hthousand : (Nat.log2 1000 : Int) = 9 := by decide
  rw [log2Quotient_one n hn]
  simp only [log2Quotient, hthousand]
  split <;> omega

/-- A number whose exponent leaves room for a carry is not out of range. -/
theorem round_ne_infinite (negative sign : Bool) {num den : Nat} (hnum : num ≠ 0)
    (h : max (log2Quotient num den - 52) minExponent < maxExponent) :
    round negative num den ≠ infinite sign := by
  rw [round, if_neg hnum]
  obtain ⟨n, d⟩ := unscaled num den (max (log2Quotient num den - 52) minExponent)
  dsimp only
  split
  · rw [if_neg (by omega)]
    simp
  · rw [if_neg (by omega)]
    simp

/-- The size of an integer that is in range. -/
theorem log2Quotient_of_round_ne (negative : Bool) {n : Nat} (hn : n ≠ 0)
    (h : ∀ sign, round negative n 1 ≠ infinite sign) : log2Quotient n 1 - 52 ≤ maxExponent := by
  apply Int.not_lt.1
  intro hlarge
  apply h negative
  rw [round, if_neg hn]
  obtain ⟨a, b⟩ := unscaled n 1 (max (log2Quotient n 1 - 52) minExponent)
  dsimp only
  split
  · exact if_pos (by omega)
  · exact if_pos (by omega)

/-- An integer that is in range is in range when it is divided by a thousand. -/
theorem quotient_thousand_ne_infinite {n : Int} (h : ∀ sign, ofInt n ≠ infinite sign)
    (sign : Bool) : quotient n 1000 ≠ infinite sign := by
  by_cases hn : n.natAbs = 0
  · rw [quotient, round, if_pos hn, zero]
    simp
  · have hsize := log2Quotient_of_round_ne _ hn h
    have hlt := log2Quotient_thousand_lt _ hn
    apply round_ne_infinite _ sign hn
    have hmin : minExponent < maxExponent := by decide
    omega

end Binary64

namespace Delay

/-- A wait that is a floating-point number of milliseconds is one of seconds. -/
theorem exists_seconds {d : Delay} {ms : Binary64} (h : d.toFloat = .ok ms) :
    ∃ s, d.seconds = .ok s := by
  cases d with
  | rounded x => exact ⟨_, rfl⟩
  | whole n =>
    have hfinite : ∀ sign, Binary64.ofInt n ≠ .infinite sign := by
      intro sign hinf
      rw [toFloat, floatOfInt, hinf] at h
      cases h
    have hquotient := Binary64.quotient_thousand_ne_infinite hfinite
    rw [seconds]
    cases hq : Binary64.quotient n 1000 with
    | finite s m e => exact ⟨_, rfl⟩
    | infinite s => exact absurd hq (hquotient s)
    | notANumber => exact ⟨_, rfl⟩

end Delay

namespace RetryPolicy

/-- The longest waits after the first attempts are numbers. -/
def HasWaits (p : RetryPolicy) (attempts : Nat) : Prop :=
  ∀ i < attempts, ∃ d ms, p.longestDelay (i : Nat) = .ok d ∧ d.toFloat = .ok ms

/-- Then the waits themselves can be computed, whatever shares of the longest ones they are. -/
theorem HasWaits.exists_delay {p : RetryPolicy} {attempts i : Nat} (h : p.HasWaits attempts)
    (hi : i < attempts) (share : Binary64) :
    ∃ d ms seconds, p.delay i share = .ok d ∧ d.toFloat = .ok ms ∧ d.seconds = .ok seconds := by
  obtain ⟨longest, ms, hlongest, hms⟩ := h i hi
  cases hjitter : p.jitter with
  | true =>
    refine ⟨.rounded ((Binary64.zero false).add (ms.mul share)), _, _, ?_, rfl, rfl⟩
    rw [delay, hlongest]
    show (if p.jitter then longest.toFloat >>= _ else _) = _
    rw [if_pos hjitter, hms]
    rfl
  | false =>
    obtain ⟨seconds, hseconds⟩ := Delay.exists_seconds hms
    refine ⟨longest, ms, seconds, ?_, hms, hseconds⟩
    rw [delay, hlongest]
    show (if p.jitter then _ else _) = _
    rw [if_neg (by simp [hjitter])]
    rfl

end RetryPolicy

end CloudClient
