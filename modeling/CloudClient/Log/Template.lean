import CloudClient.Json

/-!
# Message templates

A log message may be a template: a percent sign starts a place, and a letter says how the next
value is written there. Between the two may stand flags, a least width, and a precision after a
point. Two percent signs stand for one. The values stand in a row and have no keys, so that a key
in a place is refused.
-/

namespace CloudClient

/-- Why a template cannot be filled. -/
inductive TemplateError where
  | tooFewValues
  | tooManyValues
  /-- The template ends inside a place. -/
  | incomplete
  /-- A place asks for the value of a key. -/
  | keyed
  /-- A star stands for a width or a precision that is no integer. -/
  | starNotInteger
  /-- A star stands for a number that is beyond every width, or beyond every precision. -/
  | starWidthTooLarge
  | starPrecisionTooLarge
  /-- Digits make a number that is beyond every width, or beyond every precision. -/
  | widthTooLarge
  | precisionTooLarge
  /-- No way of writing has this letter; its place is given. -/
  | unknownLetter (letter : Char) (index : Nat)
  | notNumber (letter : Char) (kind : String)
  | notInteger (letter : Char) (kind : String)
  | notReal (kind : String)
  | notCharacter
  | characterRange
  | infiniteInteger
  | undefinedInteger
  /-- An integer is beyond the real numbers. -/
  | realRange
  /-- An integer is to have more digits than can be counted. -/
  | tooManyDigits
  /-- A text is to be wider than memory. -/
  | outOfMemory
  deriving DecidableEq, Repr

/-- The words of the error. -/
def TemplateError.message : TemplateError → String
  | tooFewValues => "not enough arguments for format string"
  | tooManyValues => "not all arguments converted during string formatting"
  | incomplete => "incomplete format"
  | keyed => "format requires a mapping"
  | starNotInteger => "* wants int"
  | starWidthTooLarge => "Python int too large to convert to C ssize_t"
  | starPrecisionTooLarge => "Python int too large to convert to C int"
  | widthTooLarge => "width too big"
  | precisionTooLarge => "precision too big"
  | unknownLetter letter index =>
    let shown := if 31 ≤ letter.toNat && letter.toNat < 127 then letter else '?'
    let code := String.ofList (Nat.toDigits 16 letter.toNat)
    s!"unsupported format character '{shown}' (0x{code}) at index {index}"
  | notNumber letter kind => s!"%{letter} format: a real number is required, not {kind}"
  | notInteger letter kind => s!"%{letter} format: an integer is required, not {kind}"
  | notReal kind => s!"must be real number, not {kind}"
  | notCharacter => "%c requires int or char"
  | characterRange => "%c arg not in range(0x110000)"
  | infiniteInteger => "cannot convert float infinity to integer"
  | undefinedInteger => "cannot convert float NaN to integer"
  | realRange => "int too large to convert to float"
  | tooManyDigits => "precision too large"
  | outOfMemory => ""

namespace Template

/-- How a place is filled. -/
structure Place where
  toLeft : Bool := false
  signed : Bool := false
  spaced : Bool := false
  alternate : Bool := false
  zeros : Bool := false
  width : Nat := 0
  precision : Option Nat := none
  deriving Inhabited

/-- Takes the next value. -/
def next : List Json → Except TemplateError (Json × List Json)
  | [] => .error .tooFewValues
  | v :: r => .ok (v, r)

/-! ## Numbers -/

/-- The digits of a magnitude in a base, upper case for a capital letter. -/
def digits (letter : Char) (n : Nat) : List Char :=
  match letter with
  | 'x' => Nat.toDigits 16 n
  | 'X' => (Nat.toDigits 16 n).map Char.toUpper
  | 'o' => Nat.toDigits 8 n
  | _ => Nat.toDigits 10 n

/-- The integer that a place shows; one in base ten cuts a number at its point. -/
def integerOf (letter : Char) (v : Json) : Except TemplateError Int :=
  match v.integer? with
  | some n => .ok n
  | none =>
    if letter == 'x' || letter == 'X' || letter == 'o' then
      .error (.notInteger letter v.kindName)
    else
      match v with
      | .float .notANumber => .error .undefinedInteger
      | .float x =>
        match x.fraction? with
        | some (n, d) => .ok (n.tdiv d)
        | none => .error .infiniteInteger
      | _ => .error (.notNumber letter v.kindName)

/-- The real number that a place shows. -/
def realOf (v : Json) : Except TemplateError Binary64 :=
  match v with
  | .float x => .ok x
  | _ =>
    match v.integer? with
    | none => .error (.notReal v.kindName)
    | some n =>
      match Binary64.ofInt n with
      | .infinite _ => .error .realRange
      | x => .ok x

/-- A point at the end of digits that have none, where the alternate form asks for one. -/
def pointed (alternate : Bool) (s : List Char) : List Char :=
  if alternate && !s.contains '.' then s ++ ['.'] else s

/-- The digits of a positive fraction rounded to a count of them, and the place of its first
digit. -/
def significant (n d count : Nat) : List Char × Int :=
  let position := Binary64.decimalPosition n d
  let (a, b) := Binary64.timesTen n d ((count : Int) - position)
  let ds := Binary64.decimalDigits (Binary64.divideToEven a b)
  (ds.take count, position + ((ds.length : Int) - count))

/-- The greatest precision. -/
def greatestPrecision : Nat := 0x7FFFFFFF

/-- The digits of a magnitude with an exponent. One digit stands before the point, so that the
greatest precision asks for more digits than can be counted; it gets one. -/
def exponential (alternate : Bool) (precision : Nat) (n d : Nat) : List Char :=
  let precision := if precision = greatestPrecision then 0 else precision
  let (ds, position) :=
    if n = 0 then (List.replicate (precision + 1) '0', 1) else significant n d (precision + 1)
  let mantissa := if precision = 0 then ds else ds.take 1 ++ '.' :: ds.drop 1
  pointed alternate mantissa ++ 'e' :: Binary64.exponentText (position - 1)

/-- Drops zeros at the end of the decimal places, and a point without places. -/
def trimZeros (s : List Char) : List Char :=
  if s.contains '.' then
    let r := s.reverse.dropWhile (· == '0')
    (match r with
      | '.' :: r => r
      | r => r).reverse
  else s

/-- A count of digits that holds every digit of every number. -/
def allDigits : Nat := 1100

/-- The digits of a magnitude in the shorter of the two forms. -/
def general (alternate : Bool) (precision : Nat) (n d : Nat) : List Char :=
  let precision := if alternate then max precision 1 else min (max precision 1) allDigits
  let (ds, position) :=
    if n = 0 then (List.replicate precision '0', 1) else significant n d precision
  let cut (s : List Char) : List Char := if alternate then pointed true s else trimZeros s
  if -3 ≤ position ∧ position ≤ precision then
    let zeros := List.replicate (-position).toNat '0'
    let whole := if position ≤ 0 then ['0'] else ds.take position.toNat
    let places := if position ≤ 0 then zeros ++ ds else ds.drop position.toNat
    cut (if places.isEmpty then whole else whole ++ '.' :: places)
  else
    let mantissa := if precision = 1 then ds else ds.take 1 ++ '.' :: ds.drop 1
    cut mantissa ++ 'e' :: Binary64.exponentText (position - 1)

/-- The text of a real number, with its sign. -/
def realText (p : Place) (letter : Char) (x : Binary64) : List Char :=
  let precision := p.precision.getD 6
  let text :=
    match x with
    | .notANumber => "nan".toList
    | .infinite negative => if negative then "-inf".toList else "inf".toList
    | .finite negative m e =>
      let (n, d) := Binary64.unscaled m 1 (-e)
      let magnitude :=
        match letter.toLower with
        | 'e' => exponential p.alternate precision n d
        | 'f' => pointed p.alternate ((Binary64.finite false m e).fixedText precision).toList
        | _ => general p.alternate precision n d
      if negative then '-' :: magnitude else magnitude
  if letter.isUpper then text.map Char.toUpper else text

/-! ## Places -/

/-- Fills a text up to the width of its place. -/
def pad (p : Place) (s : List Char) : List Char :=
  let fill := List.replicate (p.width - s.length) ' '
  if p.toLeft then s ++ fill else fill ++ s

/-- Fills a number up to the width of its place: the sign stands before the mark of a base, and
zeros stand after both. -/
def padNumber (p : Place) (s mark : List Char) : List Char :=
  let (sign, s) :=
    match s with
    | '-' :: r => (['-'], r)
    | r => (if p.signed then ['+'] else if p.spaced then [' '] else [], r)
  let front := sign ++ mark
  if p.zeros && !p.toLeft then
    front ++ List.replicate (p.width - (front.length + s.length)) '0' ++ s
  else pad p (front ++ s)

/-- A quoted form in ASCII. -/
def asciiQuoted (v : Json) : List Char :=
  v.quote.flatMap fun c =>
    if c.toNat < 0x80 then [c]
    else if c.toNat < 0x100 then '\\' :: 'x' :: Text.hexDigits 2 c.toNat
    else if c.toNat < 0x10000 then '\\' :: 'u' :: Text.hexDigits 4 c.toNat
    else '\\' :: 'U' :: Text.hexDigits 8 c.toNat

/-- The character that a place shows. -/
def characterOf (v : Json) : Except TemplateError Char :=
  match v with
  | .text s =>
    match s.toList with
    | [c] => .ok c
    | _ => .error .notCharacter
  | _ =>
    match v.integer? with
    | none => .error .notCharacter
    | some n => if 0 ≤ n ∧ n < 0x110000 then .ok (Char.ofNat n.toNat) else .error .characterRange

/-- A value as it stands in a place. -/
def fill (p : Place) (letter : Char) (index : Nat) (v : Json) :
    Except TemplateError (List Char) :=
  let cut (s : List Char) : List Char := pad p ((p.precision.map s.take).getD s)
  match letter with
  | 's' => .ok (cut v.display.toList)
  | 'r' => .ok (cut v.quote)
  | 'a' => .ok (cut (asciiQuoted v))
  | 'c' => do
    let c ← characterOf v
    return pad p [c]
  | 'd' | 'i' | 'u' | 'x' | 'X' | 'o' => do
    let n ← integerOf letter v
    if greatestPrecision - 3 < p.precision.getD 0 then throw .tooManyDigits
    let ds := digits letter n.natAbs
    let ds := List.replicate (p.precision.getD 0 - ds.length) '0' ++ ds
    let based := p.alternate && (letter == 'x' || letter == 'X' || letter == 'o')
    return padNumber p (if n < 0 then '-' :: ds else ds) (if based then ['0', letter] else [])
  | 'e' | 'E' | 'f' | 'F' | 'g' | 'G' => do
    let x ← realOf v
    return padNumber p (realText p letter x) []
  | _ => .error (.unknownLetter letter index)

/-! ## Reading a place -/

/-- The place with a flag set, if the character is one. -/
def flag? (p : Place) (c : Char) : Option Place :=
  match c with
  | '-' => some { p with toLeft := true }
  | '+' => some { p with signed := true }
  | ' ' => some { p with spaced := true }
  | '#' => some { p with alternate := true }
  | '0' => some { p with zeros := true }
  | _ => none

/-- Reads the flags at the front. -/
def readFlags (p : Place) : List Char → Place × List Char
  | [] => (p, [])
  | c :: r =>
    match flag? p c with
    | some p => readFlags p r
    | none => (p, c :: r)

/-- The value of digits. -/
def numberOf (ds : List Char) : Nat := ds.foldl (fun n c => n * 10 + (c.toNat - 0x30)) 0

/-- The two sizes that a place may have. -/
inductive Size where
  | width
  | precision

/-- The greatest number that a size can be. -/
def Size.greatest : Size → Nat
  | width => 0x7FFFFFFFFFFFFFFF
  | precision => greatestPrecision

/-- The error of digits that are beyond a size. -/
def Size.digitsError : Size → TemplateError
  | width => .widthTooLarge
  | precision => .precisionTooLarge

/-- The error of a value that is beyond a size. -/
def Size.starError : Size → TemplateError
  | width => .starWidthTooLarge
  | precision => .starPrecisionTooLarge

/-- Reads a size: digits, or a star that takes the next value. -/
def readSize (size : Size) (values : List Json) (s : List Char) :
    Except TemplateError (Option Int × List Json × List Char) := do
  match s with
  | '*' :: r =>
    let (v, values) ← next values
    match v.integer? with
    | none => throw .starNotInteger
    | some n =>
      if n < -(size.greatest : Int) - 1 || (size.greatest : Int) < n then throw size.starError
      return (some n, values, r)
  | s =>
    let ds := s.takeWhile Text.isAsciiDigit
    if size.greatest < numberOf ds then throw size.digitsError
    return (if ds.isEmpty then none else some (numberOf ds), values,
      s.dropWhile Text.isAsciiDigit)

/-- The place with a width. A negative one fills to the left; the least of all has no opposite and
asks for nothing. -/
def withWidth (p : Place) : Option Int → Place
  | none => p
  | some n =>
    let width := if n.natAbs ≤ Size.width.greatest then n.natAbs else 0
    { p with width, toLeft := p.toLeft || decide (n < 0) }

/-- Reads the precision of a place. -/
def readPrecision (p : Place) (values : List Json) (s : List Char) :
    Except TemplateError (Place × List Json × List Char) :=
  match s with
  | '.' :: r => do
    let (n, values, r) ← readSize .precision values r
    return ({ p with precision := some (n.getD 0).toNat }, values, r)
  | s => .ok (p, values, s)

/-- Drops a mark of length before the letter. -/
def dropLength : List Char → List Char
  | 'h' :: r | 'l' :: r | 'L' :: r => r
  | s => s

/-- A width that no memory holds. -/
def endlessWidth : Nat := 0x100000000

/-- Fills the place whose percent sign has just been read. The length of the whole template tells
the place of an unknown letter. -/
def fillPlace (length : Nat) (values : List Json) (s : List Char) :
    Except TemplateError (List Char × List Json × List Char) := do
  if s.head? = some '(' then throw .keyed
  let (p, s) := readFlags {} s
  let (width, values, s) ← readSize .width values s
  let (p, values, s) ← readPrecision (withWidth p width) values s
  match dropLength s with
  | [] => throw .incomplete
  | c :: r =>
    let (v, values) ← next values
    let isEndless := endlessWidth ≤ p.width
    let out ← fill (if isEndless then { p with width := 0 } else p) c (length - r.length - 1) v
    if isEndless then throw .outOfMemory
    return (out, values, r)

/-- Fills a template from its values; the fuel bounds the number of its characters. -/
def fillFrom (length : Nat) : Nat → List Json → List Char → Except TemplateError (List Char)
  | 0, _, _ => .ok []
  | fuel + 1, values, s =>
    match s with
    | [] => if values.isEmpty then .ok [] else .error .tooManyValues
    | '%' :: '%' :: r => do
      let rest ← fillFrom length fuel values r
      return '%' :: rest
    | '%' :: r => do
      let (out, values, r) ← fillPlace length values r
      let rest ← fillFrom length fuel values r
      return out ++ rest
    | c :: r => do
      let rest ← fillFrom length fuel values r
      return c :: rest

end Template

/-- A message with its values in the places of the template; a message without values is no
template. -/
def fillTemplate (message : String) (values : List Json) : Except TemplateError String :=
  if values.isEmpty then .ok message
  else
    let s := message.toList
    (Template.fillFrom s.length (s.length + 1) values s).map String.ofList

end CloudClient
