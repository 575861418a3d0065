import CloudClient.Encoding.Binary
import CloudClient.Text.CharClass
import CloudClient.Text.Split

/-!
# Numeric addresses

A host in square brackets is a numeric address: eight groups of hexadecimal digits with colons
between them, of which one run of zero groups may be left out, with an optional zone after a
percent sign. The last two groups may be written as four decimal numbers with points.
-/

namespace CloudClient.Address

/-- A decimal number from 0 to 255 without leading zeros. -/
def isOctet (s : List Char) : Bool :=
  !s.isEmpty && s.all Text.isAsciiDigit && s.length ≤ 3 && (s == ['0'] || s.head? != some '0') &&
    s.foldl (fun n c => 10 * n + (c.toNat - 0x30)) 0 ≤ 255

/-- Four decimal numbers with points between them. -/
def isDotted (s : List Char) : Bool :=
  let octets := Text.pieces '.' s
  octets.length == 4 && octets.all isOctet

/-- One to four hexadecimal digits. -/
def isGroup (s : List Char) : Bool :=
  !s.isEmpty && s.length ≤ 4 && s.all fun c => (Hex.digitValue? c).isSome

/-- The groups of an address, with a dotted tail counted as two groups. -/
def openDotted? (groups : List (List Char)) : Option (List (List Char)) :=
  match groups.getLast? with
  | none => some groups
  | some last =>
    if last.contains '.' then
      if isDotted last then some (groups.dropLast ++ [['0'], ['0']]) else none
    else some groups

/-- An end of an address at a left-out run: it may be a single empty group, which stands for the
run itself. -/
def trimEnd? : List (List Char) → Option (List (List Char))
  | [[]] => some []
  | gs => if gs.any (·.isEmpty) then none else some gs

/-- The groups make an address: eight of them, or fewer with one empty group inside for a run of
zero groups. -/
def areGroups (groups : List (List Char)) : Bool :=
  let inner := groups.tail.dropLast
  let emptyInner := inner.countP (·.isEmpty)
  if groups.length < 3 || 9 < groups.length || 1 < emptyInner then false
  else if emptyInner = 0 then groups.length == 8 && groups.all isGroup
  else
    let front := groups.head?.toList ++ inner.takeWhile (fun g => !g.isEmpty)
    let back := (inner.dropWhile (fun g => !g.isEmpty)).tail ++ groups.getLast?.toList
    match trimEnd? front, trimEnd? back with
    | some a, some b => a.length + b.length ≤ 7 && a.all isGroup && b.all isGroup
    | _, _ => false

/-- A colon-separated address with an optional zone. -/
def isColonHex (s : List Char) : Bool :=
  let (address, zone) := Text.cut '%' s
  let zoneGood :=
    match zone with
    | none => true
    | some z => !z.isEmpty && !z.contains '%'
  let groups := Text.pieces ':' address
  zoneGood && 3 ≤ groups.length &&
    match openDotted? groups with
    | some gs => areGroups gs
    | none => false

/-- An address of a later version: a hexadecimal version after the letter v, a point, and more
text. -/
def isFuture (s : List Char) : Bool :=
  match s with
  | 'v' :: r =>
    let version := r.takeWhile fun c => (Hex.digitValue? c).isSome
    match r.drop version.length with
    | '.' :: rest => !version.isEmpty && !rest.isEmpty && !rest.contains '\n'
    | _ => false
  | _ => false

end CloudClient.Address
