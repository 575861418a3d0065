import CloudClient.Calendar.DateTime
import CloudClient.Text.Blank
import CloudClient.Text.CharClass
import CloudClient.Text.Utf8

/-!
# ISO 8601 dates

Listings carry dates such as `2009-10-12T17:50:30.000Z`. They are read in the basic and the
extended form, as a day of a month or of a week, with any one character before the time, a
fraction of any length cut to microseconds, and an optional distance from UTC.
-/

namespace CloudClient.IsoDate

/-- The value of an ASCII digit. -/
def digit? (c : Char) : Option Nat :=
  if Text.isAsciiDigit c then some (c.toNat - 0x30) else none

/-- The number of exactly `n` ASCII digits at the front. -/
def digits? : Nat → Nat → List Char → Option (Nat × List Char)
  | 0, acc, s => some (acc, s)
  | _ + 1, _, [] => none
  | n + 1, acc, c :: r =>
    match digit? c with
    | some d => digits? n (10 * acc + d) r
    | none => none

/-! ## The date -/

/-- Drops a hyphen at the front when the date is written with hyphens. -/
def hyphen? (extended : Bool) (s : List Char) : Option (List Char) :=
  if extended then
    match s with
    | '-' :: r => some r
    | _ => none
  else some s

/-- The day number of a day of an ISO week. -/
def weekDay? (year week day : Nat) : Option Int :=
  if year < 1 || 9999 < year then none
  else if week < 1 || 53 < week || (week = 53 && !Calendar.hasWeek53 year) then none
  else if day < 1 || 7 < day then none
  else some (Calendar.firstMonday year + ((week - 1) * 7 + (day - 1) : Nat))

/-- Reads a whole date. -/
def readDate? (s : List Char) : Option (Int × Int × Int) := do
  let (year, r) ← digits? 4 0 s
  let extended := r.head? == some '-'
  let r := if extended then r.drop 1 else r
  match r with
  | 'W' :: r =>
    let (week, r) ← digits? 2 0 r
    let day ← if r.isEmpty then some 1
      else do
        let r ← hyphen? extended r
        let (d, _) ← digits? 1 0 r
        some d
    let n ← weekDay? year week day
    if n < 1 || (Calendar.lastDay : Int) < n then none
    else
      let (y, m, d) := Calendar.ofDayNumber n.toNat
      some (y, m, d)
  | r =>
    let (month, r) ← digits? 2 0 r
    let r ← hyphen? extended r
    let (day, _) ← digits? 2 0 r
    some (year, month, day)

/-- The number of characters that the date at the front takes. -/
def dateWidth (s : List Char) : Nat :=
  let at? (i : Nat) := s[i]?
  let isDigitAt (i : Nat) := ((at? i).map Text.isAsciiDigit).getD false
  if s.length = 7 then 7
  else if at? 4 = some '-' then
    if at? 5 = some 'W' then
      if 8 < s.length && at? 8 = some '-' then
        if 10 < s.length && isDigitAt 10 then 8 else 10
      else 8
    else 10
  else if at? 4 = some 'W' then
    let width := 7 + ((s.drop 7).takeWhile Text.isAsciiDigit).length
    if width < 9 then width else if width % 2 = 0 then 7 else 8
  else 8

/-! ## The time -/

/-- The fields of a time of day, and whether text is left behind them. -/
structure Clock where
  hour : Nat
  minute : Nat
  second : Nat
  microsecond : Nat
  leftover : Bool
  deriving DecidableEq, Repr

/-- The clock shows less than a second. -/
def Clock.isWithinSecond (c : Clock) : Bool := c.hour == 0 && c.minute == 0 && c.second == 0

/-- Reads a fraction of a second of which at least one digit stands in the text before `rest`,
and cuts it to microseconds. -/
def readFraction? (s rest : List Char) : Option (Nat × Bool) := do
  let width := min s.length 6
  let (n, r) ← digits? width 0 (s ++ rest)
  let after := r.dropWhile Text.isAsciiDigit
  some (n * Nat.pow 10 (6 - width), !(after.isEmpty || after.head? == some (Char.ofNat 0)))

/-- Reads hour, minute and second, and a fraction behind them. The text of the clock is `s`;
`rest` follows it. `fields` holds the fields read so far, last first, and `colons` says that the
hour was followed by a colon. -/
def readClock? (fuel : Nat) (fields : List Nat) (colons : Bool) (s rest : List Char) :
    Option Clock := do
  let (n, _) ← digits? 2 0 (s ++ rest)
  let s := s.drop 2
  let fields := n :: fields
  let next := (s ++ rest).head?.getD (Char.ofNat 0)
  let colons := if fields.length = 1 then next == ':' else colons
  let clock (micros : Nat) (leftover : Bool) : Clock :=
    let fs := fields.reverse
    ⟨fs.getD 0 0, fs.getD 1 0, fs.getD 2 0, micros, leftover⟩
  if s.length ≤ 1 then some (clock 0 (next != Char.ofNat 0))
  else
    let fraction (t : List Char) : Option Clock := do
      let (micros, leftover) ← readFraction? t rest
      some (clock micros leftover)
    let again (t : List Char) : Option Clock :=
      match fuel with
      | 0 => fraction t
      | fuel + 1 => readClock? fuel fields colons t rest
    if colons && next == ':' then again (s.drop 1)
    else if next == '.' || next == ',' then fraction (s.drop 1)
    else if !colons then again s
    else none

/-- The clock at the front of a text, and the sign and text of the distance from UTC when there is
one. -/
def cutZone (s : List Char) : List Char × Option (Char × List Char) :=
  let isMark (c : Char) := c == '+' || c == '-' || c == 'Z'
  match s.dropWhile (fun c => !isMark c) with
  | [] => (s, none)
  | c :: r => (s.takeWhile (fun c => !isMark c), some (c, r))

/-- The distance from UTC in microseconds. -/
def zoneMicros (negative : Bool) (c : Clock) : Int :=
  let n : Int := (((c.hour * 60 + c.minute) * 60 + c.second) * 1000000 + c.microsecond : Nat)
  if negative then -n else n

/-- Reads a time of day with an optional distance from UTC; one of less than a second counts as
none. -/
def readTime? (s : List Char) : Option (Clock × Option Int) := do
  let (clock, zone) := cutZone s
  match zone with
  | none =>
    let c ← readClock? 2 [] false clock []
    if c.leftover then none else some (c, none)
  | some (mark, r) =>
    let c ← readClock? 2 [] false clock (mark :: r)
    if mark = 'Z' then
      if r.isEmpty || r.head? == some (Char.ofNat 0) then some (c, some 0) else none
    else
      let z ← readClock? 2 [] false r []
      if z.leftover then none
      else
        let micros := if z.isWithinSecond then 0 else zoneMicros (mark == '-') z
        if micros ≤ -DateTime.dayMicros || DateTime.dayMicros ≤ micros then none
        else some (c, some micros)

/-! ## The whole -/

/-- Writes each `Z` as a distance of zero from UTC. -/
def openZulu (s : List Char) : List Char :=
  s.flatMap fun c => if c = 'Z' then ['+', '0', '0', ':', '0', '0'] else [c]

/-- The bytes of a text, each as the character of its number. -/
def byteChars (s : List Char) : List Char :=
  (Utf8.encode s).map fun b => Char.ofNat b.toNat

/-- The number of bytes of the character that starts with a byte. -/
def separatorWidth (first : Char) : Nat :=
  let n := first.toNat
  if n < 0x80 then 1
  else if n / 16 = 0xE then 3
  else if n / 16 = 0xF then 4
  else 2

/-- Reads a date with an optional time of day behind a single character. Places are counted in
bytes. -/
def readStrict? (s : List Char) : Option DateTime := do
  let s := byteChars s
  if s.length < 7 then none
  let width := dateWidth s
  let (y, m, d) ← readDate? (s.take width)
  match s.drop width with
  | [] => (DateTime.make y m d 0 0 0 0 none).toOption
  | c :: r =>
    let (c, offset) ← readTime? (r.drop (separatorWidth c - 1))
    (DateTime.make y m d c.hour c.minute c.second c.microsecond offset).toOption

/-- Reads the date of a listing; blanks around it do not matter. -/
def read? (s : String) : Option DateTime :=
  if s.isEmpty then none else readStrict? (openZulu (Text.trim s.toList))

end CloudClient.IsoDate
