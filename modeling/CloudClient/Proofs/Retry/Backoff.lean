import CloudClient.Proofs.Config
import CloudClient.Proofs.Retry.Delay

/-!
# Bounds of the waits

The longest wait after an attempt grows with the number of the attempt up to the cap of the policy.
The power by which it grows is computed before the cap is applied, and is an error from the attempt
with the number 1024 on; so is the conversion of a base or of a cap that no double-precision number
is nearest to. Main statements: when a wait can be computed; a wait lies between zero and the cap,
and without jitter waits do not decrease; and a call whose waits can be computed ends with the
outcome of one of its attempts.
-/

namespace CloudClient

open Binary64

/-! ## Integers as numbers -/

section Integers

variable {n : Int}

/-- An integer in range is rounded to a number. -/
theorem exists_floatOfInt (hn : 0 ≤ n) (h : (n : ℚ) < range) :
    ∃ x w, floatOfInt n = .ok x ∧ x.value? = some w ∧ Rounds n w ∧ w < bound := by
  obtain ⟨w, hw, hlt, hvalue⟩ := (isRounded_ofInt hn).exists_value h
  refine ⟨ofInt n, w, ?_, hvalue, hw, hlt⟩
  unfold floatOfInt
  cases hx : ofInt n with
  | finite s m e => rfl
  | infinite s =>
    rw [hx] at hvalue
    cases hvalue
  | notANumber => rfl

/-- An integer beyond the range is none. -/
theorem floatOfInt_of_ge (hn : 0 ≤ n) (h : range ≤ n) : floatOfInt n = .error .floatRange := by
  rw [floatOfInt, (isRounded_ofInt hn).eq_infinite h]

/-- An integer is a number exactly when it is in range. -/
theorem exists_floatOfInt_iff (hn : 0 ≤ n) : (∃ x, floatOfInt n = .ok x) ↔ (n : ℚ) < range := by
  constructor
  · rintro ⟨x, hx⟩
    by_contra h
    rw [floatOfInt_of_ge hn (not_lt.1 h)] at hx
    cases hx
  · intro h
    obtain ⟨x, -, hx, -⟩ := exists_floatOfInt hn h
    exact ⟨x, hx⟩

/-- A small number of an attempt is in range. -/
theorem natCast_lt_range {k : ℕ} (h : k ≤ 1024) : (k : ℚ) < range := by
  have hk : (k : ℚ) < 2 ^ (11 : ℤ) := by
    have hlt : k < 2 ^ 11 := by omega
    exact_mod_cast hlt
  exact hk.trans_le (two_zpow_le_range (by decide))

end Integers

/-! ## The longest waits -/

/-- The milliseconds of a wait. -/
def Delay.value? : Delay → Option ℚ
  | whole n => some n
  | rounded x => x.value?

/-- The longest wait after an attempt, of a base that is rounded: the base times a power of two, up
to the cap; and the cap as soon as the product is beyond the numbers. -/
def longestWait (base : ℚ) (cap : Int) (attempt : ℕ) : ℚ :=
  if base * 2 ^ attempt < bound then min (base * 2 ^ attempt) cap else cap

section LongestWait

variable {base : ℚ} {cap : Int}

/-- The longest wait is at most the cap. -/
theorem longestWait_le (base : ℚ) (cap : Int) (attempt : ℕ) :
    longestWait base cap attempt ≤ cap := by
  unfold longestWait
  split
  · exact min_le_right _ _
  · exact le_rfl

/-- The longest wait is not negative. -/
theorem longestWait_nonneg (hbase : 0 ≤ base) (hcap : 0 ≤ cap) (attempt : ℕ) :
    0 ≤ longestWait base cap attempt := by
  have hcap' : (0 : ℚ) ≤ cap := by exact_mod_cast hcap
  unfold longestWait
  split
  · exact le_min (by positivity) hcap'
  · exact hcap'

/-- **The longest waits do not decrease.** -/
theorem longestWait_mono (hbase : 0 ≤ base) (cap : Int) {m n : ℕ} (h : m ≤ n) :
    longestWait base cap m ≤ longestWait base cap n := by
  have hpow : base * 2 ^ m ≤ base * 2 ^ n :=
    mul_le_mul_of_nonneg_left (pow_le_pow_right₀ (by norm_num) h) hbase
  by_cases hn : base * 2 ^ n < bound
  · rw [longestWait, longestWait, if_pos hn, if_pos (hpow.trans_lt hn)]
    exact min_le_min_right _ hpow
  · rw [longestWait, longestWait, if_neg hn]
    exact longestWait_le base cap m

end LongestWait

namespace RetryPolicy

variable {c : RetryConfig} {attempt : ℕ}

/-- The base of a configuration times a power of two. -/
theorem longestDelay_eq {x : Binary64} {power : Binary64} (hattempt : attempt < 1024)
    (hx : floatOfInt c.baseDelay = .ok x) (hpower : (ofInt 2).pow attempt = .ok power) :
    (ofConfig c).longestDelay attempt =
      .ok (if (x.mul power).ltInt c.maxDelay then .rounded (x.mul power)
        else .whole c.maxDelay) := by
  obtain ⟨y, -, hy, -⟩ := exists_floatOfInt (n := attempt) (Int.natCast_nonneg _)
    (by exact_mod_cast natCast_lt_range hattempt.le)
  unfold longestDelay
  rw [bind_of_eq_ok hy]
  show ((((ofInt 2).pow attempt).mapError _) >>= _) = _
  rw [hpower]
  show (floatOfInt c.baseDelay >>= _) = _
  rw [hx]
  rfl

/-- The power after a late attempt is out of range before the cap is applied. -/
theorem longestDelay_of_pow {y : Binary64} (hy : floatOfInt attempt = .ok y) (h : 1024 ≤ attempt) :
    (ofConfig c).longestDelay attempt = .error (.power .outOfRange) := by
  unfold longestDelay
  rw [bind_of_eq_ok hy]
  show ((((ofInt 2).pow attempt).mapError _) >>= _) = _
  rw [pow_two_of_ge h]
  rfl

/-- **A late wait cannot be computed.** -/
theorem longestDelay_of_ge (h : 1024 ≤ attempt) :
    ∃ e, (ofConfig c).longestDelay attempt = .error e := by
  cases hy : floatOfInt attempt with
  | error e =>
    refine ⟨e, ?_⟩
    unfold longestDelay
    rw [hy]
    rfl
  | ok y => exact ⟨_, longestDelay_of_pow hy h⟩

/-- A wait is computed of a base that is a number. -/
theorem exists_of_longestDelay {d : Delay} (h : (ofConfig c).longestDelay attempt = .ok d) :
    attempt < 1024 ∧ ∃ x, floatOfInt c.baseDelay = .ok x := by
  constructor
  · by_contra hlate
    obtain ⟨e, he⟩ := longestDelay_of_ge (c := c) (not_lt.1 hlate)
    rw [he] at h
    cases h
  · obtain ⟨_, -, h⟩ := exists_of_bind_eq_ok h
    obtain ⟨_, -, h⟩ := exists_of_bind_eq_ok h
    obtain ⟨x, hx, -⟩ := exists_of_bind_eq_ok h
    exact ⟨x, hx⟩

/-- The longest wait after an attempt: the product of the base and the power, or the cap that is not
more. -/
inductive IsLongest (c : RetryConfig) (base : ℚ) (attempt : ℕ) : Delay → Prop
  | grown (x : Binary64) (hvalue : x.value? = some (longestWait base c.maxDelay attempt))
      (hrep : IsRepresentable (longestWait base c.maxDelay attempt))
      (hlt : base * 2 ^ attempt < bound) : IsLongest c base attempt (.rounded x)
  | capped (hcap : longestWait base c.maxDelay attempt = c.maxDelay)
      (hle : base * 2 ^ attempt < bound → (c.maxDelay : ℚ) ≤ base * 2 ^ attempt) :
      IsLongest c base attempt (.whole c.maxDelay)

section Based

variable {x : Binary64} {base : ℚ} (hx : floatOfInt c.baseDelay = .ok x)
  (hvalue : x.value? = some base) (hbase : Rounds c.baseDelay base)

include hx hvalue hbase

/-- **The longest wait is computed** after the first attempts. -/
theorem exists_isLongest (h : attempt < 1024) :
    ∃ d, (ofConfig c).longestDelay attempt = .ok d ∧ IsLongest c base attempt d := by
  obtain ⟨power, hpower, hpowerValue⟩ := exists_pow_two h
  have hgrown := isRounded_mul hvalue hbase.representable.nonneg hpowerValue (by positivity)
  have hrep := hbase.representable.mul_two_pow attempt
  refine ⟨_, longestDelay_eq h hx hpower, ?_⟩
  by_cases hlt : base * 2 ^ attempt < bound
  · have hproduct := hgrown.value_eq hrep hlt
    have hlongest : longestWait base c.maxDelay attempt =
        min (base * 2 ^ attempt) c.maxDelay := if_pos hlt
    split
    · rename_i hless
      have hmin : longestWait base c.maxDelay attempt = base * 2 ^ attempt := by
        rw [hlongest, min_eq_left ((ltInt_iff hproduct _).1 hless).le]
      exact .grown _ (by rw [hmin, hproduct]) (by rwa [hmin]) hlt
    · rename_i hless
      have hle := not_lt.1 fun hless' => hless ((ltInt_iff hproduct _).2 hless')
      exact .capped (by rw [hlongest, min_eq_right hle]) fun _ => hle
  · have hinfinite := hgrown.eq_infinite (range_lt_bound.le.trans (not_lt.1 hlt))
    rw [hinfinite]
    exact .capped (if_neg hlt) fun hlt' => absurd hlt' hlt

omit hx hvalue in
/-- **The longest wait is a number exactly when it is in range**, the product not being rounded. -/
theorem IsLongest.exists_toFloat_iff {d : Delay} (h : IsLongest c base attempt d)
    (hcap : 0 ≤ c.maxDelay) (hattempt : attempt < 1024) :
    (∃ y, d.toFloat = .ok y) ↔ min (c.baseDelay * 2 ^ attempt : ℚ) c.maxDelay < range := by
  rw [min_lt_iff, ← hbase.mul_two_pow_lt_bound_iff hattempt.le]
  cases h with
  | grown g _ _ hlt => exact iff_of_true ⟨g, rfl⟩ (.inl hlt)
  | capped _ hle =>
    rw [show (Delay.whole c.maxDelay).toFloat = floatOfInt c.maxDelay from rfl,
      exists_floatOfInt_iff hcap]
    refine ⟨.inr, ?_⟩
    rintro (hlt | hlt)
    · -- a cap that is not more than a number is in range as well
      have hproduct := rounds_self (hbase.representable.mul_two_pow attempt)
      exact (hle hlt).trans_lt (hproduct.lt_bound_iff.1 hlt)
    · exact hlt

end Based

/-- The milliseconds of the longest wait. -/
theorem IsLongest.value {base : ℚ} {d : Delay} (h : IsLongest c base attempt d) :
    d.value? = some (longestWait base c.maxDelay attempt) := by
  cases h with
  | grown g hvalue _ _ => exact hvalue
  | capped hcapped _ => rw [hcapped, Delay.value?]

/-- The longest wait as a number. -/
theorem IsLongest.value_toFloat {base : ℚ} {d : Delay} (h : IsLongest c base attempt d)
    (hcap : 0 ≤ c.maxDelay) {y : Binary64} (hy : d.toFloat = .ok y) :
    ∃ w, y.value? = some w ∧ Rounds (longestWait base c.maxDelay attempt) w ∧ w < bound := by
  cases h with
  | grown g hvalue hrep hlt =>
    obtain rfl := Except.ok.inj hy
    refine ⟨_, hvalue, rounds_self hrep, lt_of_le_of_lt ?_ hlt⟩
    rw [longestWait, if_pos hlt]
    exact min_le_left _ _
  | capped hcapped _ =>
    obtain ⟨y', w, hy', hvalue, hrounds, hlt⟩ :=
      exists_floatOfInt hcap ((exists_floatOfInt_iff hcap).1 ⟨y, hy⟩)
    obtain rfl := Except.ok.inj (hy.symm.trans hy')
    exact ⟨w, hvalue, by rwa [hcapped], hlt⟩

/-! ## Waits -/

/-- Without jitter a wait is the longest one. -/
theorem delay_of_not_jitter (h : c.jitter = false) (share : Binary64) :
    (ofConfig c).delay attempt share = (ofConfig c).longestDelay attempt := by
  have hjitter : ¬(ofConfig c).jitter = true := by
    rw [show (ofConfig c).jitter = c.jitter from rfl, h]
    exact Bool.false_ne_true
  unfold delay
  cases (ofConfig c).longestDelay attempt with
  | error e => rfl
  | ok d => exact if_neg hjitter

/-- With jitter a wait is a share of the longest one. -/
theorem delay_of_jitter (h : c.jitter = true) (share : Binary64) :
    (ofConfig c).delay attempt share =
      (ofConfig c).longestDelay attempt >>= fun d => d.toFloat >>= fun y =>
        .ok (.rounded ((zero false).add (y.mul share))) := by
  unfold delay
  cases (ofConfig c).longestDelay attempt with
  | error e => rfl
  | ok d => exact if_pos h

/-- A share of the longest wait: a double-precision number from zero to one. -/
structure IsShare (x : Binary64) (s : ℚ) : Prop where
  value : x.value? = some s
  representable : IsRepresentable s
  le_one : s ≤ 1

/-- A share of a number is the product of the two, rounded. -/
theorem IsShare.exists_value {x y : Binary64} {s w : ℚ} (h : IsShare x s) (hy : y.value? = some w)
    (hrep : IsRepresentable w) (hlt : w < bound) :
    ∃ v, ((zero false).add (y.mul x)).value? = some v ∧ Rounds (w * s) v := by
  have hle : w * s ≤ w := mul_le_of_le_one_right hrep.nonneg h.le_one
  have hrange : w * s < range := hle.trans_lt ((rounds_self hrep).lt_bound_iff.1 hlt)
  have hproduct := isRounded_mul hy hrep.nonneg h.value h.representable.nonneg
  obtain ⟨v, hv, hvlt, hvalue⟩ := hproduct.exists_value hrange
  have hsum := isRounded_zero_add hvalue hv.representable.nonneg
  exact ⟨v, hsum.value_eq hv.representable hvlt, hv⟩

/-- The longest wait is a number, or an integer from one on. -/
theorem IsLongest.isRepresentable_or {base : ℚ} {d : Delay} (h : IsLongest c base attempt d)
    (hcap : 0 ≤ c.maxDelay) :
    IsRepresentable (longestWait base c.maxDelay attempt) ∨
      1 ≤ longestWait base c.maxDelay attempt := by
  cases h with
  | grown _ _ hrep _ => exact .inl hrep
  | capped hcapped _ =>
    rw [hcapped]
    rcases hcap.eq_or_lt with hzero | hpos
    · left
      rw [← hzero, Int.cast_zero]
      exact isRepresentable_zero
    · right
      exact_mod_cast hpos

section Valid

variable (hbase : 0 ≤ c.baseDelay) (hcap : c.baseDelay ≤ c.maxDelay)

include hbase hcap

omit hcap in
/-- A base in range is rounded once for all attempts. -/
theorem exists_base (hrange : (c.baseDelay : ℚ) < range) :
    ∃ base, Rounds c.baseDelay base ∧
      ∀ attempt < 1024, ∃ d, (ofConfig c).longestDelay (attempt : ℕ) = .ok d ∧
        IsLongest c base attempt d := by
  obtain ⟨x, base, hx, hvalue, hrounds, -⟩ := exists_floatOfInt hbase hrange
  exact ⟨base, hrounds, fun attempt hattempt => exists_isLongest hx hvalue hrounds hattempt⟩

/-- **Which longest waits are numbers**: those of the first 1024 attempts that are in range. -/
theorem exists_longest_iff (attempt : ℕ) :
    (∃ d y, (ofConfig c).longestDelay attempt = .ok d ∧ d.toFloat = .ok y) ↔
      attempt < 1024 ∧ min (c.baseDelay * 2 ^ attempt : ℚ) c.maxDelay < range := by
  have hcap' := hbase.trans hcap
  constructor
  · rintro ⟨d, y, hd, hy⟩
    obtain ⟨hattempt, hx⟩ := exists_of_longestDelay hd
    obtain ⟨base, hrounds, hlongest⟩ := exists_base hbase ((exists_floatOfInt_iff hbase).1 hx)
    obtain ⟨d', hd', his⟩ := hlongest attempt hattempt
    obtain rfl := Except.ok.inj (hd.symm.trans hd')
    exact ⟨hattempt, (his.exists_toFloat_iff hrounds hcap' hattempt).1 ⟨y, hy⟩⟩
  · rintro ⟨hattempt, hrange⟩
    have hbaseRange : (c.baseDelay : ℚ) < range := by
      refine lt_of_le_of_lt (le_min ?_ (by exact_mod_cast hcap)) hrange
      exact le_mul_of_one_le_right (by exact_mod_cast hbase) (one_le_pow₀ (by norm_num))
    obtain ⟨base, hrounds, hlongest⟩ := exists_base hbase hbaseRange
    obtain ⟨d, hd, his⟩ := hlongest attempt hattempt
    obtain ⟨y, hy⟩ := (his.exists_toFloat_iff hrounds hcap' hattempt).2 hrange
    exact ⟨d, y, hd, hy⟩

/-- **When a wait can be computed**: the attempt is one of the first 1024, the base is in range, and
with jitter the longest wait is. -/
theorem exists_delay_iff (attempt : ℕ) (share : Binary64) :
    (∃ d, (ofConfig c).delay attempt share = .ok d) ↔
      attempt < 1024 ∧ (c.baseDelay : ℚ) < range ∧
        (c.jitter = true → min (c.baseDelay * 2 ^ attempt : ℚ) c.maxDelay < range) := by
  cases hjitter : c.jitter with
  | false =>
    rw [delay_of_not_jitter hjitter]
    constructor
    · rintro ⟨d, hd⟩
      obtain ⟨hattempt, hx⟩ := exists_of_longestDelay hd
      exact ⟨hattempt, (exists_floatOfInt_iff hbase).1 hx, fun h => absurd h Bool.false_ne_true⟩
    · rintro ⟨hattempt, hrange, -⟩
      obtain ⟨base, -, hlongest⟩ := exists_base hbase hrange
      obtain ⟨d, hd, -⟩ := hlongest attempt hattempt
      exact ⟨d, hd⟩
  | true =>
    rw [delay_of_jitter hjitter]
    constructor
    · rintro ⟨d, hd⟩
      obtain ⟨longest, hlongest, hd⟩ := exists_of_bind_eq_ok hd
      obtain ⟨y, hy, -⟩ := exists_of_bind_eq_ok hd
      obtain ⟨hattempt, hx⟩ := exists_of_longestDelay hlongest
      have hiff := exists_longest_iff hbase hcap attempt
      exact ⟨hattempt, (exists_floatOfInt_iff hbase).1 hx,
        fun _ => (hiff.1 ⟨longest, y, hlongest, hy⟩).2⟩
    · rintro ⟨hattempt, -, hrange⟩
      obtain ⟨longest, y, hlongest, hy⟩ :=
        (exists_longest_iff hbase hcap attempt).2 ⟨hattempt, hrange rfl⟩
      exact ⟨.rounded ((zero false).add (y.mul share)),
        by rw [bind_of_eq_ok hlongest, bind_of_eq_ok hy]⟩

/-- **A wait lies between zero and the cap.** The whole of a cap that is no double-precision number
is rounded to the nearest one. -/
theorem value_delay {share : Binary64} {s : ℚ} (hshare : IsShare share s) {d : Delay}
    (h : (ofConfig c).delay attempt share = .ok d) :
    ∃ v, d.value? = some v ∧ 0 ≤ v ∧
      (v ≤ c.maxDelay ∨ c.jitter = true ∧ s = 1 ∧ Rounds c.maxDelay v) := by
  have hcap' := hbase.trans hcap
  obtain ⟨hattempt, hrange, -⟩ := (exists_delay_iff hbase hcap attempt share).1 ⟨d, h⟩
  obtain ⟨base, hrounds, hbased⟩ := exists_base hbase hrange
  obtain ⟨longest, hlongest, his⟩ := hbased attempt hattempt
  have hle := longestWait_le base c.maxDelay attempt
  cases hjitter : c.jitter with
  | false =>
    rw [delay_of_not_jitter hjitter, hlongest] at h
    obtain rfl := Except.ok.inj h
    exact ⟨longestWait base c.maxDelay attempt, his.value,
      longestWait_nonneg hrounds.representable.nonneg hcap' attempt, .inl hle⟩
  | true =>
    rw [delay_of_jitter hjitter, bind_of_eq_ok hlongest] at h
    obtain ⟨y, hy, h⟩ := exists_of_bind_eq_ok h
    obtain rfl := Except.ok.inj h
    obtain ⟨w, hw, hwRounds, hwlt⟩ := his.value_toFloat hcap' hy
    obtain ⟨v, hv, hvRounds⟩ := hshare.exists_value hw hwRounds.representable hwlt
    refine ⟨v, hv, hvRounds.representable.nonneg, ?_⟩
    rcases hshare.le_one.eq_or_lt with rfl | hless
    · -- the whole of the longest wait is what that is rounded to
      rw [mul_one] at hvRounds
      obtain rfl := hvRounds.eq_of_isRepresentable hwRounds.representable
      cases his with
      | grown _ _ hrep _ =>
        left
        rwa [hwRounds.eq_of_isRepresentable hrep]
      | capped hcapped _ =>
        right
        rw [hcapped] at hwRounds
        exact ⟨rfl, rfl, hwRounds⟩
    · left
      exact (hwRounds.le_of_share hvRounds (his.isRepresentable_or hcap') hshare.representable
        hless).trans hle

/-- **Without jitter the waits do not decrease.** -/
theorem value_delay_mono (hjitter : c.jitter = false) {m n : ℕ} (hmn : m ≤ n) {x y : Binary64}
    {d e : Delay} (hd : (ofConfig c).delay m x = .ok d) (he : (ofConfig c).delay n y = .ok e) :
    ∃ v w, d.value? = some v ∧ e.value? = some w ∧ v ≤ w := by
  obtain ⟨hm, hrange, -⟩ := (exists_delay_iff hbase hcap m x).1 ⟨d, hd⟩
  obtain ⟨hn, -, -⟩ := (exists_delay_iff hbase hcap n y).1 ⟨e, he⟩
  obtain ⟨base, hrounds, hlongest⟩ := exists_base hbase hrange
  obtain ⟨d', hd', hisD⟩ := hlongest m hm
  obtain ⟨e', he', hisE⟩ := hlongest n hn
  rw [delay_of_not_jitter hjitter] at hd he
  obtain rfl := Except.ok.inj (hd.symm.trans hd')
  obtain rfl := Except.ok.inj (he.symm.trans he')
  exact ⟨_, _, hisD.value, hisE.value, longestWait_mono hrounds.representable.nonneg c.maxDelay hmn⟩

end Valid

end RetryPolicy

/-! ## Calls -/

/-- **A call whose waits can be computed ends with an attempt**: its outcome is what is told of the
first final attempt, or of the last one that is allowed, and no failure of a wait. -/
theorem RetryRules.run_ends_with_attempt {m : Type → Type} [Monad m] {σ α : Type}
    (I : Interpretation m σ) (r : RetryRules α) (act : AttemptActions m α) {k : ℕ}
    (hk : r.policy.maxRetries = k) (hwaits : r.policy.HasWaits k) (s : σ) :
    ∃ n ≤ k, ∃ stats s', (r.isFinal (I.run (act.attempt n) s').1 = true ∨ n = k) ∧
      (I.run (r.run act) s).1 = (stats, r.told n (I.run (act.attempt n) s').1) := by
  obtain ⟨n, hn, stats, s', -, hend, hrun⟩ :=
    run_run_of_invariant I act hk (fun n stats _ => stats.total = n) (fun _ _ _ h => h)
      (fun n stats s hn htotal _ => by
        obtain ⟨d, ms, seconds, hd, hms, hseconds⟩ :=
          hwaits.exists_delay hn (drawn I act r (I.run (act.attempt n) s).2).1
        refine ⟨_, _, run_wait I act hd hms hseconds _ _, ?_⟩
        show (stats.tallyAgain _).total = n + 1
        rw [AttemptStats.total_tallyAgain, htotal])
      (s := s) rfl
  exact ⟨n, hn, _, s', hend, by rw [hrun]⟩

namespace RetryPolicy

/-- **Waits are capped as long as they are in range.** For a valid configuration a wait can be
computed exactly after the first 1024 attempts, where the base is in range and, with jitter, the
longest wait is. Then it lies between zero and the cap, apart from the rounding of a cap that is no
double-precision number; without jitter the waits do not decrease; and a call all of whose longest
waits are in range ends with an attempt. -/
theorem waits_are_capped_while_in_range {c : Config} (h : c.validate = .ok ()) :
    (∀ (attempt : ℕ) (share : Binary64), (∃ d, (ofConfig c.retry).delay attempt share = .ok d) ↔
      attempt < 1024 ∧ (c.retry.baseDelay : ℚ) < range ∧
        (c.retry.jitter = true →
          min (c.retry.baseDelay * 2 ^ attempt : ℚ) c.retry.maxDelay < range)) ∧
    (∀ (attempt : ℕ) (share : Binary64) (s : ℚ) (d : Delay), IsShare share s →
      (ofConfig c.retry).delay attempt share = .ok d →
      ∃ v, d.value? = some v ∧ 0 ≤ v ∧
        (v ≤ c.retry.maxDelay ∨ c.retry.jitter = true ∧ s = 1 ∧ Rounds c.retry.maxDelay v)) ∧
    (c.retry.jitter = false → ∀ (m n : ℕ) (x y : Binary64) (d e : Delay), m ≤ n →
      (ofConfig c.retry).delay m x = .ok d → (ofConfig c.retry).delay n y = .ok e →
      ∃ v w, d.value? = some v ∧ e.value? = some w ∧ v ≤ w) ∧
    ∀ (m : Type → Type) [Monad m] (σ α : Type) (I : Interpretation m σ) (r : RetryRules α)
      (act : AttemptActions m α) (k : ℕ) (s : σ),
      r.policy = ofConfig c.retry → c.retry.maxRetries = k →
      (∀ i < k, i < 1024 ∧ min (c.retry.baseDelay * 2 ^ i : ℚ) c.retry.maxDelay < range) →
      ∃ n ≤ k, ∃ stats s', (r.isFinal (I.run (act.attempt n) s').1 = true ∨ n = k) ∧
        (I.run (r.run act) s).1 = (stats, r.told n (I.run (act.attempt n) s').1) := by
  obtain ⟨hbase, hcap⟩ := Config.delays_of_validate h
  refine ⟨exists_delay_iff hbase hcap, ?_, ?_, ?_⟩
  · intro attempt share s d hshare hd
    exact value_delay hbase hcap hshare hd
  · intro hjitter m n x y d e hmn hd he
    exact value_delay_mono hbase hcap hjitter hmn hd he
  · intro m _ σ α I r act k s hpolicy hk hrange
    apply RetryRules.run_ends_with_attempt I r act
    · rw [hpolicy]
      exact hk
    · rw [hpolicy]
      intro i hi
      exact (exists_longest_iff hbase hcap i).2 (hrange i hi)

/-- The wait after the twenty-first attempt is one of at most ten seconds. -/
theorem late_default_wait_is_capped :
    Config.validate { retry := { jitter := false } } = .ok () ∧
      ∃ d v, (ofConfig { jitter := false }).delay 20 (zero false) = .ok d ∧ d.value? = some v ∧
        0 ≤ v ∧ v ≤ 10000 := by
  have hvalid : Config.validate { retry := { jitter := false } } = .ok () := rfl
  obtain ⟨hdefined, hbounds, -, -⟩ := waits_are_capped_while_in_range hvalid
  have hrange : ((100 : ℕ) : ℚ) < range := natCast_lt_range (by decide)
  obtain ⟨d, hd⟩ := (hdefined 20 (zero false)).2
    ⟨by decide, by exact_mod_cast hrange, fun hjitter => absurd hjitter Bool.false_ne_true⟩
  have hshare : IsShare (zero false) 0 :=
    ⟨by simp [zero, value?, signed], isRepresentable_zero, zero_le_one⟩
  obtain ⟨v, hv, hnonneg, hle⟩ := hbounds 20 (zero false) 0 d hshare hd
  refine ⟨hvalid, d, v, hd, hv, hnonneg, ?_⟩
  rcases hle with hle | ⟨⟨⟩, -⟩
  exact_mod_cast hle

/-- A call that may be tried so often has a wait that cannot be computed: the power is out of range,
although the cap is ten seconds. -/
theorem wait_after_1024_retries_is_out_of_range :
    Config.validate { retry := { maxRetries := 2000, jitter := false } } = .ok () ∧
      (ofConfig { maxRetries := 2000, jitter := false }).delay 1024 (zero false) =
        .error (.power .outOfRange) := by
  obtain ⟨y, -, hy, -⟩ := exists_floatOfInt (n := (1024 : ℕ)) (by decide)
    (by exact_mod_cast natCast_lt_range (le_refl 1024))
  refine ⟨rfl, ?_⟩
  exact (delay_of_not_jitter rfl _).trans (longestDelay_of_pow hy (le_refl 1024))

end RetryPolicy

end CloudClient
