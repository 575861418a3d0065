import CloudClient.Calendar.DateTime
import CloudClient.Number.Integer
import CloudClient.Text.Case
import CloudClient.Text.Split

/-!
# Dates of mail and HTTP headers

Headers carry dates such as `Tue, 27 Mar 2007 19:36:42 GMT`. They are written in that one form
and read leniently: the weekday may be missing, the parts may be joined by hyphens, the month may
stand first, the year may have two digits, and the zone may be a name, a number or missing.
-/

namespace CloudClient.MailDate

/-- The weekdays from Monday on. -/
def dayNames : List String := ["Mon", "Tue", "Wed", "Thu", "Fri", "Sat", "Sun"]

/-- The months from January on. -/
def monthNames : List String :=
  ["Jan", "Feb", "Mar", "Apr", "May", "Jun", "Jul", "Aug", "Sep", "Oct", "Nov", "Dec"]

/-! ## Writing -/

/-- The header text of a UTC time. -/
def write (t : DateTime) : String :=
  dayNames.getD (Calendar.weekday t.dayNumber) "" ++ ", " ++ DateTime.padded 2 t.day ++ " "
    ++ monthNames.getD (t.month - 1) "" ++ " " ++ DateTime.padded 4 t.year ++ " "
    ++ DateTime.padded 2 t.hour ++ ":" ++ DateTime.padded 2 t.minute ++ ":"
    ++ DateTime.padded 2 t.second ++ " GMT"

/-- The header text of any time. -/
def header (t : DateTime) : Except DateError String := do
  return write (← t.toUtc)

/-! ## Reading -/

/-- The names that stand for a weekday and are skipped. -/
def weekdayWords : List (List Char) := dayNames.map fun s => Text.lower s.toList

/-- The short and the long month names in lower case, January first in both. -/
def monthWords : List (List Char) :=
  (monthNames.map fun s => Text.lower s.toList) ++
    ["january", "february", "march", "april", "may", "june", "july", "august", "september",
      "october", "november", "december"].map String.toList

/-- The number of a month by its name in lower case. -/
def monthNumber? (word : List Char) : Option Nat :=
  (monthWords.findIdx? (· == word)).map fun i => i % 12 + 1

/-- The named zones as signed hours and minutes. -/
def zones : List (String × Int) :=
  [("UT", 0), ("UTC", 0), ("GMT", 0), ("Z", 0), ("AST", -400), ("ADT", -300), ("EST", -500),
    ("EDT", -400), ("CST", -600), ("CDT", -500), ("MST", -700), ("MDT", -600), ("PST", -800),
    ("PDT", -700)]

/-- Capitals that zone names may be written with; a long s and its ligatures count as letters. -/
def zoneCapitals (c : Char) : List Char :=
  if c.toNat = 0x17F then ['S']
  else if c.toNat = 0xFB05 || c.toNat = 0xFB06 then ['S', 'T']
  else [Text.upperAscii c]

/-- Signed hours and minutes as seconds. -/
def zoneSeconds (n : Int) : Int :=
  let a := n.natAbs
  let s : Int := (a / 100 * 3600 + a % 100 * 60 : Nat)
  if n < 0 then -s else s

/-- The distance from UTC in seconds that a zone denotes. A name that is not known, and a zero
with a minus sign, say that it is not known. -/
def zoneOffset? (zone : List Char) : Option Int :=
  match zones.lookup (String.ofList (zone.flatMap zoneCapitals)) with
  | some n => some (zoneSeconds n)
  | none =>
    match Number.readInt zone with
    | .ok n => if n = 0 && zone.head? == some '-' then none else some (zoneSeconds n)
    | .error _ => none

/-- Drops a comma at the end. -/
def dropComma (s : List Char) : List Char :=
  if s.getLast? = some ',' then s.dropLast else s

/-- Drops a weekday from the words of a date: a word of its own, or up to a comma in the first
word. -/
def dropWeekday : List (List Char) → List (List Char)
  | [] => []
  | w :: ws =>
    if w.getLast? = some ',' || weekdayWords.contains (Text.lower w) then ws
    else
      match Text.cutLast ',' w with
      | (some _, rest) => rest :: ws
      | (none, _) => w :: ws

/-- Opens a date of three words whose first joins day, month and year by hyphens. -/
def openHyphens (ws : List (List Char)) : List (List Char) :=
  match ws with
  | [date, time, zone] =>
    match Text.pieces '-' date with
    | [d, m, y] => [d, m, y, time, zone]
    | _ => ws
  | _ => ws

/-- Separates a zone that is written onto the time, and supplies an empty zone otherwise. -/
def openZone (ws : List (List Char)) : List (List Char) :=
  match ws with
  | [d, m, y, time] =>
    let sign := if time.contains '+' then '+' else '-'
    let before := time.takeWhile (· != sign)
    let after := time.dropWhile (· != sign)
    if after.isEmpty || before.isEmpty then [d, m, y, time, []] else [d, m, y, before, after]
  | _ => ws

/-- The hour, minute and second of a time; the second may be missing, and points may separate
hour and minute. -/
def splitTime (time : List Char) : Option (List Char × List Char × List Char) :=
  match Text.pieces ':' time with
  | [h, m] => some (h, m, ['0'])
  | [h, m, s] => some (h, m, s)
  | [one] =>
    if one.contains '.' then
      match Text.pieces '.' one with
      | [h, m] => some (h, m, ['0'])
      | [h, m, s] => some (h, m, s)
      | _ => none
    else none
  | _ => none

/-- A year below a hundred belongs to the hundred years from 1969 on. -/
def fullYear (y : Int) : Int :=
  if y < 100 then (if 68 < y then y + 1900 else y + 2000) else y

/-- The numbers of a date and the distance from UTC when it is known. -/
structure Fields where
  year : Int
  month : Nat
  day : Int
  hour : Int
  minute : Int
  second : Int
  zone : Option Int
  deriving DecidableEq, Repr

/-- The day and the month of a date, whichever of the two words names a month. -/
def dayAndMonth? (first second : List Char) : Option (List Char × Nat) :=
  match monthNumber? (Text.lower second) with
  | some m => some (first, m)
  | none => (monthNumber? (Text.lower first)).map fun m => (Text.lower second, m)

/-- An integer when the text is one. -/
def int? (s : List Char) : Option Int := (Number.readInt s).toOption

/-- Reads the five parts of a date. -/
def readParts? (first second year time zone : List Char) : Option Fields := do
  if first.isEmpty || second.isEmpty || year.isEmpty then none
  let (day, month) ← dayAndMonth? first second
  let day := dropComma day
  let (year, time) := if (year.takeWhile (· != ':')).length < year.length
      && year.head? != some ':' then (time, year) else (year, time)
  if year.isEmpty then none
  let year := dropComma year
  if year.isEmpty then none
  let (year, zone) := if (year.head?.map Text.isDigitLike).getD false then (year, zone)
    else (zone, year)
  let (hour, minute, second) ← splitTime (dropComma time)
  let year ← int? year
  let day ← int? day
  let hour ← int? hour
  let minute ← int? minute
  let second ← int? second
  return ⟨fullYear year, month, day, hour, minute, second, zoneOffset? zone⟩

/-- Reads the numbers of a date. -/
def readFields? (s : List Char) : Option Fields := do
  let ws ← match Text.words s with
    | [] => none
    | ws => some ws
  match openZone (openHyphens (dropWeekday ws)) with
  | first :: second :: year :: time :: zone :: _ => readParts? first second year time zone
  | _ => none

/-- Reads a date. A text that is no date gives nothing; only numbers too large to be counted are
an error. -/
def read (s : String) : Except DateError (Option DateTime) :=
  match readFields? s.toList with
  | none => .ok none
  | some f =>
    let result : Except DateError DateTime := do
      let offset ← match f.zone with
        | none => pure none
        | some z => pure (some (← DateTime.checkOffset z))
      DateTime.make f.year f.month f.day f.hour f.minute f.second 0 offset
    match result with
    | .ok t => .ok (some t)
    | .error e => if e.isOverflow then .error e else .ok none

end CloudClient.MailDate
