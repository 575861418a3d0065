import CloudClient.Calendar.DateTime

/-!
# Moments as seconds since 1970

A log record is stamped with the seconds since the start of 1970, whole or with a fraction. Their
UTC time is rounded to microseconds and lies in the years 1 to 9999; their clock text is cut to
thousandths and takes any year that fits in 32 bits. Main statement: a whole number of seconds is
its own second.
-/

namespace CloudClient

/-- A moment in seconds since the start of 1970. -/
inductive EpochTime where
  | whole (seconds : Int)
  | real (seconds : Binary64)
  deriving DecidableEq, Repr

namespace EpochTime

/-- The number of the first of January 1970. -/
def epochDay : Nat := 719163

/-- The seconds as a fraction. -/
def fraction : EpochTime → Except DateError (Int × Nat)
  | whole n => .ok (n, 1)
  | real .notANumber => .error .undefinedSecond
  | real x =>
    match x.fraction? with
    | some q => .ok q
    | none => .error .secondBeyond

/-- The part of a fraction below one, with the fraction's sign, a number of times. -/
def scaledPart (n : Int) (d times : Nat) : Int × Nat :=
  let part := Binary64.round (n < 0) (n - n.tdiv d * d).natAbs d
  ((part.mul (.ofInt times)).fraction?).getD (0, 1)

/-- The whole microseconds nearest to a fraction: its part below one is scaled first and then
rounded, a tie to the even number. -/
def microsOf (n : Int) (d : Nat) : Int :=
  let (a, b) := scaledPart n d 1000000
  let micros : Int := Binary64.divideToEven a.natAbs b
  n.tdiv d * 1000000 + if a < 0 then -micros else micros

/-- The date of a second, whose year must fit in 32 bits once 1900 is taken off. -/
def dateOf (second : Int) : Except DateError (Int × Nat × Nat) := do
  if second < -0x8000000000000000 || 0x8000000000000000 ≤ second then throw .secondBeyond
  let (year, month, day) := Calendar.ofAnyDay (epochDay + second / 86400)
  if year - 1900 < -0x80000000 || 0x80000000 ≤ year - 1900 then throw .yearBeyond
  return (year, month, day)

/-- The UTC time of a moment. The year in an error is the one that 32 bits can hold. -/
def toUtc (t : EpochTime) : Except DateError DateTime := do
  let (n, d) ← t.fraction
  let micros := microsOf n d
  let (year, _, _) ← dateOf (micros / 1000000)
  (DateTime.ofMicros (epochDay * DateTime.dayMicros + micros)).mapError fun _ =>
    .year (year.bmod 0x100000000)

/-- The second in which a moment falls. -/
def second (t : EpochTime) : Except DateError Int := do
  let (n, d) ← t.fraction
  return n.fdiv d

/-- The thousandths of a second, cut toward zero. -/
def milliseconds (t : EpochTime) : Except DateError Int := do
  let (n, d) ← t.fraction
  let (a, b) := scaledPart n d 1000
  return a.tdiv b

/-- An integer filled with zeros up to three characters. -/
def threeDigits (n : Int) : String :=
  if n < 0 then "-" ++ DateTime.padded 2 n.natAbs else DateTime.padded 3 n.natAbs

/-- The time on a clock that shows UTC, down to thousandths; the year is not filled with zeros. -/
def clockText (t : EpochTime) : Except DateError String := do
  let s ← t.second
  let (year, month, day) ← dateOf s
  if 0x80000000 ≤ year then throw .fieldAbove
  let time := (s % 86400).toNat
  let two := DateTime.padded 2
  return s!"{year}-{two month}-{two day} " ++
    s!"{two (time / 3600)}:{two (time / 60 % 60)}:{two (time % 60)}," ++
    threeDigits (← t.milliseconds)

/-- A whole number of seconds is its own second. -/
theorem second_whole (n : Int) : (whole n).second = .ok n := by
  simp [second, fraction, bind, Except.bind, pure, Except.pure]

end EpochTime

end CloudClient
