import CloudClient.Number.Binary64

/-!
# Shortest decimal text

A double-precision number is written with the fewest digits that read back as it, and of the
candidates with that many digits the one nearest to it. Digits stand positionally while the point
falls from three places before the first digit to sixteen after it, and with an exponent
otherwise.
-/

namespace CloudClient

namespace Binary64

/-- The decimal digits of a number, and the digit zero for zero. -/
def decimalDigits (n : Nat) : List Char := (Nat.repr n).toList

/-- The decimal text of a finite magnitude: `digits` times ten to the `exponent`. -/
structure Decimal where
  digits : Nat
  exponent : Int
  deriving DecidableEq, Repr

/-- The quotient times a power of ten, as numerator and denominator. -/
def timesTen (num den : Nat) (k : Int) : Nat × Nat :=
  if 0 ≤ k then (num * Nat.pow 10 k.toNat, den) else (num, den * Nat.pow 10 (-k).toNat)

/-- The position of the first decimal digit: ten to the result is above the quotient, and ten to
one less is not. The first guess comes from the position of the first binary digit. -/
def decimalPosition (num den : Nat) : Int :=
  let guess : Int := ((Nat.log2 num : Int) - (Nat.log2 den : Int)) * 30103 / 100000
  let fits (k : Int) : Bool := let (n, d) := timesTen num den (-k); n < d
  ((List.range 5).map fun (i : Nat) => guess - 1 + (i : Int)).find? fits |>.getD (guess + 3)

/-- The number with `count` digits on the grid next to the quotient that reads back as the given
number, the nearer one of two. -/
def candidate? (x : Binary64) (num den : Nat) (position : Int) (count : Nat) : Option Decimal :=
  let e := position - (count : Int)
  let (n, d) := timesTen num den (-e)
  let q := n / d
  let r := n % d
  let reads (m : Nat) : Bool :=
    match x with
    | finite s _ _ => ofDecimal s m e == x
    | _ => false
  let near := if d < 2 * r || (d == 2 * r && q % 2 == 1) then [q + 1, q] else [q, q + 1]
  (near.find? reads).map fun m => ⟨m, e⟩

/-- The shortest decimal that reads back as a positive finite number. -/
def shortest (x : Binary64) (num den : Nat) : Decimal :=
  let position := decimalPosition num den
  ((List.range 17).findSome? fun i => candidate? x num den position (i + 1)).getD ⟨0, 0⟩

/-- Drops the zeros at the end of a digit string. -/
def stripZeros (ds : List Char) : List Char :=
  (ds.reverse.dropWhile (· == '0')).reverse

/-- An exponent as it is written: its sign and at least two digits. -/
def exponentText (e : Int) : List Char :=
  let ds := decimalDigits e.natAbs
  (if e < 0 then '-' else '+') :: (if ds.length < 2 then '0' :: ds else ds)

/-- The text of digits whose point stands `point` places after the first digit's front. -/
def placePoint (ds : List Char) (point : Int) : List Char :=
  if -3 ≤ point ∧ point ≤ 16 then
    if point ≤ 0 then '0' :: '.' :: (List.replicate (-point).toNat '0' ++ ds)
    else
      let p := point.toNat
      let whole := ds.take p ++ List.replicate (p - ds.length) '0'
      let rest := ds.drop p
      whole ++ '.' :: (if rest.isEmpty then ['0'] else rest)
  else
    let e := exponentText (point - 1)
    match ds with
    | [] => []
    | [d] => d :: 'e' :: e
    | d :: r => d :: '.' :: (r ++ 'e' :: e)

/-- The shortest text of a number. -/
def shortestText : Binary64 → String
  | notANumber => "nan"
  | infinite negative => if negative then "-inf" else "inf"
  | finite negative m e =>
    let sign := if negative then ['-'] else []
    if m = 0 then String.ofList (sign ++ ['0', '.', '0'])
    else
      let (n, d) := unscaled m 1 (-e)
      let s := shortest (finite negative m e) n d
      let ds := decimalDigits s.digits
      String.ofList (sign ++ placePoint (stripZeros ds) ((ds.length : Int) + s.exponent))

/-! ## Fixed places -/

/-- A text with a fixed number of decimal places, rounded to the nearest, a tie to even. -/
def fixedText (places : Nat) : Binary64 → String
  | notANumber => "nan"
  | infinite negative => if negative then "-inf" else "inf"
  | finite negative m e =>
    let (n, d) := unscaled m 1 (-e)
    let scaled := divideToEven (n * Nat.pow 10 places) d
    let ds := decimalDigits scaled
    let ds := List.replicate (places + 1 - ds.length) '0' ++ ds
    let whole := ds.take (ds.length - places)
    let rest := ds.drop (ds.length - places)
    let sign := if negative then ['-'] else []
    String.ofList (sign ++ whole ++ (if places = 0 then [] else '.' :: rest))

end Binary64

end CloudClient
