import CloudClient.Calendar.DateTime
import CloudClient.Proofs.Calendar.DayNumber

/-!
# Times of the calendar and their moments

A time has a date that the calendar has and a time of day that the clock has, and it denotes a
moment, whatever its clock shows. Main statements: the numbers of such a time make that time; its
UTC time is the one that is made of its moment, unless it is of the very first day and its clock is
not known; and times that denote moments of one second have the same second in UTC.
-/

namespace CloudClient.DateTime

/-- A time that the calendar and the clock have. -/
structure IsSound (t : DateTime) : Prop where
  year : 1 ≤ t.year ∧ t.year ≤ 9999
  month : 1 ≤ t.month ∧ t.month ≤ 12
  day : 1 ≤ t.day ∧ t.day ≤ Calendar.daysInMonth t.year t.month
  hour : t.hour ≤ 23
  minute : t.minute ≤ 59
  second : t.second ≤ 59
  microsecond : t.microsecond ≤ 999999

instance : DecidablePred IsSound := fun t =>
  decidable_of_iff ((1 ≤ t.year ∧ t.year ≤ 9999) ∧ (1 ≤ t.month ∧ t.month ≤ 12) ∧
      (1 ≤ t.day ∧ t.day ≤ Calendar.daysInMonth t.year t.month) ∧ t.hour ≤ 23 ∧ t.minute ≤ 59 ∧
      t.second ≤ 59 ∧ t.microsecond ≤ 999999)
    ⟨fun ⟨hyear, hmonth, hday, hhour, hminute, hsecond, hmicrosecond⟩ =>
        ⟨hyear, hmonth, hday, hhour, hminute, hsecond, hmicrosecond⟩,
      fun h => ⟨h.year, h.month, h.day, h.hour, h.minute, h.second, h.microsecond⟩⟩

/-- No month is longer than thirty-one days. -/
theorem daysInMonth_le (year month : Nat) : Calendar.daysInMonth year month ≤ 31 := by
  have hall : ∀ l ∈ Calendar.monthLengths year, l ≤ 31 := by
    unfold Calendar.monthLengths
    split <;> decide
  rw [Calendar.daysInMonth, List.getD_eq_getElem?_getD]
  cases hl : (Calendar.monthLengths year)[month - 1]? with
  | none => decide
  | some l => exact hall l (List.mem_of_getElem? hl)

/-- A small number fits in 32 bits. -/
theorem checkWidth_natCast {n : Nat} (h : n ≤ 999999) : checkWidth n = .ok () := by
  have hfits : ¬((n : Int) < -0x8000000000000000 ∨ 0x8000000000000000 ≤ (n : Int)) := by omega
  rw [checkWidth]
  simp only [Bool.or_eq_true, decide_eq_true_eq]
  rw [if_neg hfits, if_neg (by omega), if_neg (by omega)]

/-- Small numbers all fit in 32 bits. -/
theorem forM_checkWidth {l : List Nat} (h : ∀ n ∈ l, n ≤ 999999) :
    (l.map (Int.ofNat ·)).forM checkWidth = .ok () := by
  induction l with
  | nil => rfl
  | cons n l ih =>
    have hn : checkWidth (Int.ofNat n) = .ok () := checkWidth_natCast (h n List.mem_cons_self)
    show (checkWidth (Int.ofNat n) >>= fun _ => (l.map (Int.ofNat ·)).forM checkWidth) = _
    rw [hn, ih fun m hm => h m (List.mem_cons_of_mem n hm)]
    rfl

/-- The numbers of a sound time make that time. -/
theorem make_of_isSound {t : DateTime} (h : t.IsSound) :
    make t.year t.month t.day t.hour t.minute t.second t.microsecond t.offset = .ok t := by
  have hday := daysInMonth_le t.year t.month
  obtain ⟨hyear, hmonth, hdays, hhour, hminute, hsecond, hmicros⟩ := h
  have hwidth : [(t.year : Int), t.month, t.day, t.hour, t.minute, t.second, t.microsecond].forM
      checkWidth = .ok () := by
    refine forM_checkWidth (l := [t.year, t.month, t.day, t.hour, t.minute, t.second,
      t.microsecond]) fun n hn => ?_
    simp only [List.mem_cons, List.not_mem_nil, or_false] at hn
    omega
  have hrange : ∀ {lo hi n : Int}, lo ≤ n → n ≤ hi →
      (decide (n < lo) || decide (hi < n)) = false := by
    intro lo hi n hlo hhi
    rw [Bool.or_eq_false_iff, decide_eq_false_iff_not, decide_eq_false_iff_not]
    omega
  have hlength : (t.day : Int) ≤ (make.daysInMonth' t.year t.month : Nat) := by
    have hnat : make.daysInMonth' t.year t.month = Calendar.daysInMonth t.year t.month := rfl
    rw [hnat]
    omega
  rw [make, hwidth, hrange (by omega) (by omega), hrange (by omega) (by omega),
    hrange (by omega) hlength, hrange (by omega) (by omega), hrange (by omega) (by omega),
    hrange (by omega) (by omega), hrange (by omega) (by omega)]
  rfl

/-- The start of the second of a time. -/
def wholeSecond (t : DateTime) : DateTime := { t with microsecond := 0 }

/-- The start of a second is a time as well. -/
theorem isSound_wholeSecond {t : DateTime} (h : t.IsSound) : t.wholeSecond.IsSound :=
  ⟨h.year, h.month, h.day, h.hour, h.minute, h.second, Nat.zero_le _⟩

/-! ## Moments -/

/-- The microseconds from the start of day zero to the moment that a time denotes. A clock that is
not known is taken to show UTC. -/
def instant (t : DateTime) : Int := t.clockMicros - t.offset.getD 0

/-- The microseconds of a second. -/
def secondMicros : Int := 1000000

/-- A time of the very first day on a clock that is not known. -/
def IsFirstUnknown (t : DateTime) : Prop := t.offset = none ∧ t.dayNumber = 1

instance : DecidablePred IsFirstUnknown := fun t =>
  inferInstanceAs (Decidable (t.offset = none ∧ t.dayNumber = 1))

variable {t u : DateTime}

/-! ## Times that are made of microseconds -/

/-- The time of day is less than a day. -/
theorem IsSound.timeMicros_bounds (h : t.IsSound) :
    0 ≤ t.timeMicros ∧ t.timeMicros < dayMicros := by
  have hhour := h.hour
  have hminute := h.minute
  have hsecond := h.second
  have hmicrosecond := h.microsecond
  rw [timeMicros, dayMicros]
  omega

/-- The number of a day of the calendar is one of those that are counted. -/
theorem IsSound.dayNumber_bounds (h : t.IsSound) :
    1 ≤ t.dayNumber ∧ t.dayNumber ≤ Calendar.lastDay :=
  Calendar.dayNumber_bounds h.year h.month h.day

/-- A sound time is made of its day and its time of day. -/
theorem IsSound.ofDay_eq (h : t.IsSound) : ofDay t.dayNumber t.timeMicros.toNat t.offset = t := by
  have hdate : Calendar.ofDayNumber t.dayNumber = (t.year, t.month, t.day) :=
    Calendar.ofDayNumber_dayNumber h.year.1 h.month.1 h.day
  have hminute := h.minute
  have hsecond := h.second
  have hmicrosecond := h.microsecond
  have hmicros : t.timeMicros.toNat =
      ((t.hour * 60 + t.minute) * 60 + t.second) * 1000000 + t.microsecond := by
    rw [timeMicros]
    omega
  have h1 : t.timeMicros.toNat / 3600000000 = t.hour := by omega
  have h2 : t.timeMicros.toNat / 60000000 % 60 = t.minute := by omega
  have h3 : t.timeMicros.toNat / 1000000 % 60 = t.second := by omega
  have h4 : t.timeMicros.toNat % 1000000 = t.microsecond := by omega
  rw [ofDay, hdate]
  simp only [h1, h2, h3, h4]

/-- The day is the number of whole days that a clock shows. -/
theorem IsSound.clockMicros_div (h : t.IsSound) : t.clockMicros / dayMicros = t.dayNumber := by
  obtain ⟨hlow, hhigh⟩ := h.timeMicros_bounds
  rw [clockMicros, dayMicros] at *
  omega

/-- **What a UTC clock shows makes its time.** -/
theorem IsSound.ofMicros_clockMicros (h : t.IsSound) :
    ofMicros t.clockMicros = .ok { t with offset := some 0 } := by
  obtain ⟨hfirst, hlast⟩ := h.dayNumber_bounds
  obtain ⟨hlow, hhigh⟩ := h.timeMicros_bounds
  have hsound : { t with offset := some 0 }.IsSound :=
    ⟨h.year, h.month, h.day, h.hour, h.minute, h.second, h.microsecond⟩
  have hrest : t.clockMicros % dayMicros = t.timeMicros := by
    rw [clockMicros, dayMicros] at *
    omega
  have hrange : ((t.dayNumber : Int) < 1 || (Calendar.lastDay : Int) < t.dayNumber) = false := by
    rw [Bool.or_eq_false_iff, decide_eq_false_iff_not, decide_eq_false_iff_not]
    omega
  rw [ofMicros, h.clockMicros_div, hrest]
  simp only [hrange, Int.toNat_natCast]
  exact congrArg Except.ok hsound.ofDay_eq

/-- **The UTC time of a time is made of its moment**, unless that is on the very first day and its
clock is not known. -/
theorem IsSound.toUtc_eq (h : t.IsSound) (hfirst : ¬t.IsFirstUnknown) :
    t.toUtc = ofMicros t.instant := by
  cases hoffset : t.offset with
  | none =>
    have hday : t.dayNumber ≠ 1 := fun hday => hfirst ⟨hoffset, hday⟩
    rw [instant, hoffset, Option.getD_none, Int.sub_zero, h.ofMicros_clockMicros, toUtc, hoffset]
    simp only [hday, if_false]
  | some o =>
    rw [instant, hoffset, Option.getD_some]
    by_cases ho : o = 0
    · subst ho
      rw [Int.sub_zero, h.ofMicros_clockMicros, toUtc_of_offset_zero hoffset, ← hoffset]
    · rw [toUtc, hoffset]
      simp only [ho, if_false]

/-- A time of the very first day on a clock that is not known has no UTC time. -/
theorem IsFirstUnknown.toUtc_eq (h : t.IsFirstUnknown) : t.toUtc = .error (.year 0) := by
  rw [toUtc, h.1]
  simp only [h.2, if_true]

/-- A moment that is after the first year in UTC is not on the very first day. -/
theorem IsSound.not_isFirstUnknown (h : t.IsSound) (hu : u.IsSound) (hutc : u.offset = some 0)
    (hsame : u.instant = t.instant) (hyear : u.year ≠ 1) : ¬t.IsFirstUnknown := by
  rintro ⟨hoffset, hday⟩
  have hclock : u.clockMicros = t.clockMicros := by
    rwa [instant, instant, hutc, hoffset, Option.getD_some, Option.getD_none, Int.sub_zero,
      Int.sub_zero] at hsame
  have hsameDay : u.dayNumber = 1 := by
    have hdays := hu.clockMicros_div
    rw [hclock, h.clockMicros_div, hday] at hdays
    omega
  have hdate : Calendar.ofDayNumber u.dayNumber = (u.year, u.month, u.day) :=
    Calendar.ofDayNumber_dayNumber hu.year.1 hu.month.1 hu.day
  rw [hsameDay] at hdate
  exact hyear (congrArg Prod.fst hdate).symm

/-- **A UTC time of the same moment is the UTC time.** -/
theorem IsSound.toUtc_eq_ok (h : t.IsSound) (hfirst : ¬t.IsFirstUnknown) (hu : u.IsSound)
    (hutc : u.offset = some 0) (hsame : u.instant = t.instant) : t.toUtc = .ok u := by
  have hclock : u.instant = u.clockMicros := by
    rw [instant, hutc, Option.getD_some, Int.sub_zero]
  rw [h.toUtc_eq hfirst, ← hsame, hclock, hu.ofMicros_clockMicros, ← hutc]

/-! ## Seconds -/

/-- The start of a second is made of the second of the day. -/
theorem wholeSecond_ofDay (day micros : Nat) (offset : Option Int) :
    (ofDay day micros offset).wholeSecond = ofDay day (micros / 1000000 * 1000000) offset := by
  have h1 : micros / 1000000 * 1000000 / 3600000000 = micros / 3600000000 := by omega
  have h2 : micros / 1000000 * 1000000 / 60000000 = micros / 60000000 := by omega
  have h3 : micros / 1000000 * 1000000 / 1000000 = micros / 1000000 := by omega
  have h4 : micros / 1000000 * 1000000 % 1000000 = 0 := by omega
  rw [ofDay, ofDay, h1, h2, h3, h4]
  rfl

/-- **Moments of one second make times that differ in their microseconds alone.** -/
theorem ofMicros_congr {m m' : Int} (h : m / secondMicros = m' / secondMicros) :
    (ofMicros m).map wholeSecond = (ofMicros m').map wholeSecond := by
  rw [secondMicros] at h
  have hday : m / dayMicros = m' / dayMicros := by
    rw [dayMicros]
    omega
  have hsecond : (m % dayMicros).toNat / 1000000 = (m' % dayMicros).toNat / 1000000 := by
    rw [dayMicros]
    omega
  rw [ofMicros, ofMicros, hday]
  split
  · rfl
  · show Except.ok _ = Except.ok _
    rw [wholeSecond_ofDay, wholeSecond_ofDay, hsecond]

/-- Times with the same second in UTC, or which both have no UTC time for the same reason. -/
def SameSecond (t u : DateTime) : Prop := t.toUtc.map wholeSecond = u.toUtc.map wholeSecond

/-- **Times that denote moments of one second have the same second in UTC.** -/
theorem IsSound.sameSecond (h : t.IsSound) (hu : u.IsSound) (hfirst : ¬t.IsFirstUnknown)
    (hfirst' : ¬u.IsFirstUnknown) (hsecond : t.instant / secondMicros = u.instant / secondMicros) :
    t.SameSecond u := by
  rw [SameSecond, h.toUtc_eq hfirst, hu.toUtc_eq hfirst', ofMicros_congr hsecond]

end CloudClient.DateTime
