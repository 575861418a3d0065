import CloudClient.Calendar.Date
import CloudClient.Number.Shortest

/-!
# Dates with a time of day

A date, a time of day down to the microsecond, and the distance of its clock from UTC when it is
known. A time without one is taken to be UTC. Main statement: a time that is already in UTC is
its own UTC form.
-/

namespace CloudClient

/-- A date with a time of day. -/
structure DateTime where
  year : Nat
  month : Nat
  day : Nat
  hour : Nat
  minute : Nat
  second : Nat
  microsecond : Nat
  /-- The distance of the clock from UTC in microseconds, when it is known. -/
  offset : Option Int
  deriving DecidableEq, Repr

/-- Why numbers give no date. -/
inductive DateError where
  | year (n : Int)
  | month
  | day
  | hour
  | minute
  | second
  | microsecond
  /-- The clock is a day or more away from UTC; the distance is in seconds. -/
  | offset (seconds : Int)
  /-- The distance from UTC has too many days. -/
  | offsetDays (days : Int)
  /-- The distance from UTC has more days than can be counted. -/
  | offsetBeyond
  /-- A field is above the greatest 32-bit number. -/
  | fieldAbove
  /-- A field is below the least 32-bit number. -/
  | fieldBelow
  /-- A field does not fit in 64 bits. -/
  | fieldBeyond
  /-- The date in UTC falls outside the years 1 to 9999. -/
  | outOfRange
  /-- The year has more than 32 bits. -/
  | yearBeyond
  /-- The second has more than 64 bits. -/
  | secondBeyond
  /-- The seconds are no number. -/
  | undefinedSecond
  deriving DecidableEq, Repr

namespace DateError

/-- A distance of seconds in days and the seconds of a day. -/
def spanText (seconds : Int) : String :=
  let days := seconds / 86400
  let rest := seconds % 86400
  if rest = 0 then s!"datetime.timedelta(days={days})"
  else if days = 0 then s!"datetime.timedelta(seconds={rest})"
  else s!"datetime.timedelta(days={days}, seconds={rest})"

/-- The words of the error. -/
def message : DateError → String
  | year n => s!"year {n} is out of range"
  | month => "month must be in 1..12"
  | day => "day is out of range for month"
  | hour => "hour must be in 0..23"
  | minute => "minute must be in 0..59"
  | second => "second must be in 0..59"
  | microsecond => "microsecond must be in 0..999999"
  | offset s =>
    "offset must be a timedelta strictly between -timedelta(hours=24) and timedelta(hours=24), "
      ++ s!"not {spanText s}."
  | offsetDays d => s!"days={d}; must have magnitude <= 999999999"
  | offsetBeyond => "Python int too large to convert to C int"
  | fieldAbove => "signed integer is greater than maximum"
  | fieldBelow => "signed integer is less than minimum"
  | fieldBeyond => "Python int too large to convert to C long"
  | outOfRange => "date value out of range"
  | yearBeyond => "[Errno 75] Value too large for defined data type"
  | secondBeyond => "timestamp out of range for platform time_t"
  | undefinedSecond => "Invalid value NaN (not a number)"

/-- The number behind the error is too large to be counted, as opposed to out of the calendar. -/
def isOverflow : DateError → Bool
  | offsetDays _ | offsetBeyond | fieldAbove | fieldBelow | fieldBeyond | outOfRange
  | secondBeyond => true
  | _ => false

end DateError

namespace DateTime

/-- A field must fit in 32 bits before its range is looked at. -/
def checkWidth (n : Int) : Except DateError Unit :=
  if n < -0x8000000000000000 || 0x8000000000000000 ≤ n then .error .fieldBeyond
  else if n < -0x80000000 then .error .fieldBelow
  else if 0x80000000 ≤ n then .error .fieldAbove
  else .ok ()

/-- The date and time of the given numbers, checked from the year down. -/
def make (year month day hour minute second microsecond : Int) (offset : Option Int) :
    Except DateError DateTime := do
  [year, month, day, hour, minute, second, microsecond].forM checkWidth
  if year < 1 || 9999 < year then throw (.year year)
  if month < 1 || 12 < month then throw .month
  if day < 1 || (daysInMonth' year month : Int) < day then throw .day
  if hour < 0 || 23 < hour then throw .hour
  if minute < 0 || 59 < minute then throw .minute
  if second < 0 || 59 < second then throw .second
  if microsecond < 0 || 999999 < microsecond then throw .microsecond
  return {
    year := year.toNat, month := month.toNat, day := day.toNat, hour := hour.toNat,
    minute := minute.toNat, second := second.toNat, microsecond := microsecond.toNat, offset }
where
  /-- The length of a month given as whole numbers. -/
  daysInMonth' (year month : Int) : Nat := Calendar.daysInMonth year.toNat month.toNat

/-- The distance from UTC of a clock, which must be less than a day. -/
def checkOffset (seconds : Int) : Except DateError Int :=
  let days := seconds / 86400
  if days < -0x80000000 || 0x80000000 ≤ days then .error .offsetBeyond
  else if days < -999999999 || 999999999 < days then .error (.offsetDays days)
  else if seconds ≤ -86400 || 86400 ≤ seconds then .error (.offset seconds)
  else .ok (seconds * 1000000)

/-- The microseconds of a day. -/
def dayMicros : Int := 86400000000

/-- The microseconds since midnight. -/
def timeMicros (t : DateTime) : Int :=
  ((t.hour * 60 + t.minute) * 60 + t.second : Nat) * 1000000 + t.microsecond

/-- The number of the day. -/
def dayNumber (t : DateTime) : Nat := Calendar.dayNumber t.year t.month t.day

/-- The microseconds from the start of day zero, as shown by the clock. -/
def clockMicros (t : DateTime) : Int := t.dayNumber * dayMicros + t.timeMicros

/-- The time of day of a number of microseconds since midnight, on a given day. -/
def ofDay (day : Nat) (micros : Nat) (offset : Option Int) : DateTime :=
  let (y, m, d) := Calendar.ofDayNumber day
  { year := y, month := m, day := d,
    hour := micros / 3600000000, minute := micros / 60000000 % 60,
    second := micros / 1000000 % 60, microsecond := micros % 1000000, offset }

/-- The time in UTC that a number of microseconds from the start of day zero denotes. -/
def ofMicros (micros : Int) : Except DateError DateTime :=
  let day := micros / dayMicros
  if day < 1 || (Calendar.lastDay : Int) < day then .error .outOfRange
  else .ok (ofDay day.toNat (micros % dayMicros).toNat (some 0))

/-- The same moment on a clock that shows UTC. A time without a known offset is taken as UTC; the
very first day cannot be taken so, because the day before it has no date. -/
def toUtc (t : DateTime) : Except DateError DateTime :=
  match t.offset with
  | none => if t.dayNumber = 1 then .error (.year 0) else .ok { t with offset := some 0 }
  | some o => if o = 0 then .ok t else ofMicros (t.clockMicros - o)

/-- A time that is already in UTC is its own UTC form. -/
theorem toUtc_of_offset_zero {t : DateTime} (h : t.offset = some 0) : t.toUtc = .ok t := by
  simp [toUtc, h]

/-- The time a number of seconds later, in UTC. -/
def addSeconds (t : DateTime) (seconds : Nat) : Except DateError DateTime := do
  let u ← t.toUtc
  ofMicros (u.clockMicros + seconds * 1000000)

/-! ## Text -/

/-- A number with zeros before it up to a width. -/
def padded (width n : Nat) : String :=
  let ds := (Nat.repr n).toList
  String.ofList (List.replicate (width - ds.length) '0' ++ ds)

/-- The distance from UTC as hours and minutes, with seconds and a fraction where needed. -/
def offsetText (micros : Int) : String :=
  let n := micros.natAbs
  let seconds := n / 1000000
  let fraction := n % 1000000
  let base := (if micros < 0 then "-" else "+") ++ padded 2 (seconds / 3600) ++ ":"
    ++ padded 2 (seconds / 60 % 60)
  if fraction ≠ 0 then base ++ ":" ++ padded 2 (seconds % 60) ++ "." ++ padded 6 fraction
  else if seconds % 60 ≠ 0 then base ++ ":" ++ padded 2 (seconds % 60)
  else base

/-- The ISO 8601 text, with a fraction only where it is not zero. -/
def isoText (t : DateTime) : String :=
  padded 4 t.year ++ "-" ++ padded 2 t.month ++ "-" ++ padded 2 t.day ++ "T"
    ++ padded 2 t.hour ++ ":" ++ padded 2 t.minute ++ ":" ++ padded 2 t.second
    ++ (if t.microsecond = 0 then "" else "." ++ padded 6 t.microsecond)
    ++ (match t.offset with
      | some o => offsetText o
      | none => "")

/-- The year, month and day without separators; the year is not filled up with zeros. -/
def compactDate (t : DateTime) : String :=
  toString t.year ++ padded 2 t.month ++ padded 2 t.day

/-- The compact text of a UTC time, down to the second. -/
def compactText (t : DateTime) : String :=
  t.compactDate ++ "T" ++ padded 2 t.hour ++ padded 2 t.minute ++ padded 2 t.second ++ "Z"

/-- The extended text of a UTC time, down to the second; the year is not filled up with zeros. -/
def zuluText (t : DateTime) : String :=
  toString t.year ++ "-" ++ padded 2 t.month ++ "-" ++ padded 2 t.day ++ "T"
    ++ padded 2 t.hour ++ ":" ++ padded 2 t.minute ++ ":" ++ padded 2 t.second ++ "Z"

end DateTime

end CloudClient
