/-!
# Dates

Dates of the Gregorian calendar, extended back to the year 1, and the count of days from its
first day. Main statement: the days before a year grow by the length of the year.
-/

namespace CloudClient.Calendar

/-- A year with a twenty-ninth of February. -/
def isLeap (year : Nat) : Bool :=
  year % 4 == 0 && (year % 100 != 0 || year % 400 == 0)

/-- The lengths of the months of a year, in order. -/
def monthLengths (year : Nat) : List Nat :=
  [31, if isLeap year then 29 else 28, 31, 30, 31, 30, 31, 31, 30, 31, 30, 31]

/-- The length of a month. -/
def daysInMonth (year month : Nat) : Nat :=
  (monthLengths year).getD (month - 1) 0

/-- The number of days before the first of January of a year. -/
def daysBeforeYear (year : Nat) : Nat :=
  let y := year - 1
  365 * y + y / 4 - y / 100 + y / 400

/-- The number of days of a year before the first of a month. -/
def daysBeforeMonth (year month : Nat) : Nat :=
  ((monthLengths year).take (month - 1)).foldl (· + ·) 0

/-- The number of a day, counted from one on the first of January of the year 1. -/
def dayNumber (year month day : Nat) : Nat :=
  daysBeforeYear year + daysBeforeMonth year month + day

/-- The number of the last day of the year 9999. -/
def lastDay : Nat := 3652059

/-- The month and day of a year's day, counted from zero. -/
def monthAndDay (lengths : List Nat) (day : Nat) : Nat × Nat :=
  match lengths with
  | [] => (1, day + 1)
  | l :: r =>
    if day < l then (1, day + 1)
    else
      let (m, d) := monthAndDay r (day - l)
      (m + 1, d)

/-- The year, month and day of a day number. Whole cycles of 400, 100, 4 and 1 years are taken
off in turn; the last day of a cycle belongs to its last year. -/
def ofDayNumber (n : Nat) : Nat × Nat × Nat :=
  let n := n - 1
  let n400 := n / 146097
  let n := n % 146097
  let n100 := min (n / 36524) 3
  let n := n - 36524 * n100
  let n4 := n / 1461
  let n := n % 1461
  let n1 := min (n / 365) 3
  let n := n - 365 * n1
  let year := 400 * n400 + 100 * n100 + 4 * n4 + n1 + 1
  let (m, d) := monthAndDay (monthLengths year) n
  (year, m, d)

/-- The year, month and day of a day before or after the years that are counted: dates repeat
every four hundred years. -/
def ofAnyDay (n : Int) : Int × Nat × Nat :=
  let (year, m, d) := ofDayNumber ((n - 1) % 146097 + 1).toNat
  (year + 400 * ((n - 1) / 146097), m, d)

/-- The day of the week of a day number, with zero for Monday. -/
def weekday (n : Nat) : Nat := (n + 6) % 7

/-- The days before a year grow by the length of the year. -/
theorem daysBeforeYear_succ (year : Nat) (h : 1 ≤ year) :
    daysBeforeYear (year + 1) = daysBeforeYear year + if isLeap year then 366 else 365 := by
  obtain ⟨y, rfl⟩ : ∃ y, year = y + 1 := ⟨year - 1, by omega⟩
  have h4 := Nat.succ_div (a := y) (b := 4)
  have h100 := Nat.succ_div (a := y) (b := 100)
  have h400 := Nat.succ_div (a := y) (b := 400)
  have hle : y / 100 ≤ y / 4 := Nat.div_le_div_left (by omega) (by omega)
  have hd : 400 ∣ y + 1 → 100 ∣ y + 1 := Nat.dvd_trans (by omega)
  have hd' : 100 ∣ y + 1 → 4 ∣ y + 1 := Nat.dvd_trans (by omega)
  simp only [daysBeforeYear, isLeap, Nat.add_sub_cancel, h4, h100, h400,
    Nat.dvd_iff_mod_eq_zero] at *
  generalize y / 4 = a at *
  generalize y / 100 = b at *
  generalize y / 400 = c at *
  by_cases c4 : (y + 1) % 4 = 0 <;> by_cases c100 : (y + 1) % 100 = 0 <;>
    by_cases c400 : (y + 1) % 400 = 0 <;> simp_all <;> omega

/-- The day number of the Monday of a year's first ISO week, which is the week that holds the
fourth of January. -/
def firstMonday (year : Nat) : Int :=
  let first : Int := dayNumber year 1 1
  let w := weekday (dayNumber year 1 1)
  if w > 3 then first - w + 7 else first - w

/-- A year has 53 ISO weeks when it starts on a Thursday, or on a Wednesday and is a leap year. -/
def hasWeek53 (year : Nat) : Bool :=
  let w := weekday (dayNumber year 1 1)
  w == 3 || (w == 2 && isLeap year)

end CloudClient.Calendar
