import CloudClient.Calendar.Date

/-!
# Dates and day numbers

A date is found by its number. Years come in cycles of 400, 100, 4 and 1; the number of days before
a year is the sum of the days of these cycles, and the cycles are taken off a number one after the
other. Main statements: the date of the number of a date is that date, and the dates up to the year
9999 have the numbers up to the last day.
-/

namespace CloudClient.Calendar

/-! ## Months -/

/-- A day of a year lies in the month that begins before it and ends after it. -/
theorem monthAndDay_of_lt {lengths : List Nat} {k day : Nat} (h : day < lengths.getD k 0) :
    monthAndDay lengths ((lengths.take k).foldl (· + ·) 0 + day) = (k + 1, day + 1) := by
  induction lengths generalizing k with
  | nil => cases h
  | cons l lengths ih =>
    cases k with
    | zero =>
      have hday : day < l := h
      rw [List.take_zero, List.foldl_nil, Nat.zero_add, monthAndDay, if_pos hday]
    | succ k =>
      have hsum : (lengths.take k).foldl (· + ·) l = l + (lengths.take k).foldl (· + ·) 0 := by
        show (lengths.take k).foldl (· + ·) (l + 0) = _
        exact List.foldl_assoc
      have hpast : ¬l + (lengths.take k).foldl (· + ·) 0 + day < l := by omega
      have hrest : l + (lengths.take k).foldl (· + ·) 0 + day - l =
          (lengths.take k).foldl (· + ·) 0 + day := by omega
      rw [List.take_succ_cons, List.foldl_cons, Nat.zero_add, hsum, monthAndDay, if_neg hpast,
        hrest, ih h]

/-- A month ends with its year or before it. -/
theorem daysBeforeMonth_add_le (year : Nat) {month : Nat} (hmonth : 1 ≤ month ∧ month ≤ 12) :
    daysBeforeMonth year month + daysInMonth year month ≤ if isLeap year then 366 else 365 := by
  obtain ⟨k, rfl⟩ : ∃ k, month = k + 1 := ⟨month - 1, by omega⟩
  have hk : k < 12 := by omega
  clear hmonth
  rw [daysBeforeMonth, daysInMonth, monthLengths, Nat.add_sub_cancel]
  cases isLeap year with
  | false =>
    revert k
    decide
  | true =>
    revert k
    decide

/-! ## Years -/

/-- A year is told by the cycles before it: of 400, of 100, of 4 years and of one. -/
theorem exists_cycles {year : Nat} (h : 1 ≤ year) :
    ∃ a b c d, b ≤ 3 ∧ c ≤ 24 ∧ d ≤ 3 ∧ year = 400 * a + 100 * b + 4 * c + d + 1 := by
  refine ⟨(year - 1) / 400, (year - 1) % 400 / 100, (year - 1) % 100 / 4, (year - 1) % 4, ?_, ?_,
    ?_, ?_⟩
  all_goals omega

variable {a b c d : Nat}

/-- The days before a year are those of its cycles. -/
theorem daysBeforeYear_cycles (hb : b ≤ 3) (hc : c ≤ 24) (hd : d ≤ 3) :
    daysBeforeYear (400 * a + 100 * b + 4 * c + d + 1) =
      146097 * a + 36524 * b + 1461 * c + 365 * d := by
  have h4 : (400 * a + 100 * b + 4 * c + d) / 4 = 100 * a + 25 * b + c := by omega
  have h100 : (400 * a + 100 * b + 4 * c + d) / 100 = 4 * a + b := by omega
  have h400 : (400 * a + 100 * b + 4 * c + d) / 400 = a := by omega
  rw [daysBeforeYear, Nat.add_sub_cancel, h4, h100, h400]
  omega

/-- A leap year is the last of its four years, and the last of four hundred when it is the last of a
hundred. -/
theorem isLeap_cycles (hb : b ≤ 3) (hd : d ≤ 3)
    (h : isLeap (400 * a + 100 * b + 4 * c + d + 1) = true) : d = 3 ∧ (c = 24 → b = 3) := by
  rw [isLeap, Bool.and_eq_true, Bool.or_eq_true, beq_iff_eq, beq_iff_eq, bne_iff_ne] at h
  omega

/-- **The cycles are taken off a day number in turn**, and what is left is the day of the year. -/
theorem ofDayNumber_cycles (hb : b ≤ 3) (hc : c ≤ 24) (hd : d ≤ 3) {day : Nat}
    (hday : day < if isLeap (400 * a + 100 * b + 4 * c + d + 1) then 366 else 365) :
    ofDayNumber (146097 * a + 36524 * b + 1461 * c + 365 * d + day + 1) =
      (400 * a + 100 * b + 4 * c + d + 1,
        monthAndDay (monthLengths (400 * a + 100 * b + 4 * c + d + 1)) day) := by
  -- A year of 366 days ends a cycle of four, and not one of a hundred unless it ends one of four
  -- hundred.
  have hlong : day < 365 ∨ (day = 365 ∧ d = 3 ∧ (c = 24 → b = 3)) := by
    split at hday
    · rename_i hleap
      have hcycles := isLeap_cycles hb hd hleap
      omega
    · exact .inl hday
  have h400 : (146097 * a + 36524 * b + 1461 * c + 365 * d + day) / 146097 = a := by omega
  have hrest400 : (146097 * a + 36524 * b + 1461 * c + 365 * d + day) % 146097 =
      36524 * b + 1461 * c + 365 * d + day := by omega
  have h100 : min ((36524 * b + 1461 * c + 365 * d + day) / 36524) 3 = b := by omega
  have hrest100 : 36524 * b + 1461 * c + 365 * d + day - 36524 * b =
      1461 * c + 365 * d + day := by omega
  have h4 : (1461 * c + 365 * d + day) / 1461 = c := by omega
  have hrest4 : (1461 * c + 365 * d + day) % 1461 = 365 * d + day := by omega
  have h1 : min ((365 * d + day) / 365) 3 = d := by omega
  have hrest1 : 365 * d + day - 365 * d = day := by omega
  simp only [ofDayNumber, Nat.add_sub_cancel, h400, hrest400, h100, hrest100, h4, hrest4, h1,
    hrest1]

/-! ## Dates -/

variable {year month day : Nat}

/-- **The date of the number of a date is that date.** -/
theorem ofDayNumber_dayNumber (hyear : 1 ≤ year) (hmonth : 1 ≤ month)
    (hday : 1 ≤ day ∧ day ≤ daysInMonth year month) :
    ofDayNumber (dayNumber year month day) = (year, month, day) := by
  obtain ⟨k, rfl⟩ : ∃ k, month = k + 1 := ⟨month - 1, by omega⟩
  obtain ⟨i, rfl⟩ : ∃ i, day = i + 1 := ⟨day - 1, by omega⟩
  obtain ⟨hlow, hhigh⟩ := hday
  have hin : i < (monthLengths year).getD k 0 := by
    rw [daysInMonth, Nat.add_sub_cancel] at hhigh
    exact hhigh
  have htwelve : k + 1 ≤ 12 := by
    apply Nat.le_of_not_lt
    intro hlong
    have hnone : (monthLengths year).getD k 0 = 0 := by
      have hlength : (monthLengths year).length ≤ k := Nat.le_of_lt_succ hlong
      rw [List.getD_eq_getElem?_getD, List.getElem?_eq_none hlength]
      rfl
    omega
  have hend := daysBeforeMonth_add_le year ⟨hmonth, htwelve⟩
  have hsplit : monthAndDay (monthLengths year) (daysBeforeMonth year (k + 1) + i) =
      (k + 1, i + 1) := monthAndDay_of_lt hin
  obtain ⟨a, b, c, d, hb, hc, hd, rfl⟩ := exists_cycles hyear
  rw [dayNumber, daysBeforeYear_cycles hb hc hd, ← Nat.add_assoc,
    Nat.add_assoc (146097 * a + _ + _ + _) _ i, ofDayNumber_cycles hb hc hd (by omega)]
  rw [hsplit]

/-- Later years begin later. -/
theorem daysBeforeYear_le {later : Nat} (hyear : 1 ≤ year) (h : year ≤ later) :
    daysBeforeYear year ≤ daysBeforeYear later := by
  induction h with
  | refl => exact Nat.le_refl _
  | step h ih =>
    rw [daysBeforeYear_succ _ (Nat.le_trans hyear h)]
    omega

/-- **The dates up to the year 9999 have the numbers up to the last day.** -/
theorem dayNumber_bounds (hyear : 1 ≤ year ∧ year ≤ 9999) (hmonth : 1 ≤ month ∧ month ≤ 12)
    (hday : 1 ≤ day ∧ day ≤ daysInMonth year month) :
    1 ≤ dayNumber year month day ∧ dayNumber year month day ≤ lastDay := by
  have hend := daysBeforeMonth_add_le year hmonth
  have hnext := daysBeforeYear_succ year hyear.1
  have hlast : daysBeforeYear (year + 1) ≤ daysBeforeYear 10000 :=
    daysBeforeYear_le (by omega) (by omega)
  have hcount : daysBeforeYear 10000 = lastDay := by decide
  rw [dayNumber]
  omega

end CloudClient.Calendar
