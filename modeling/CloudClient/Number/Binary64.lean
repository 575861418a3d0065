/-!
# Double-precision numbers

Timeouts and delays are double-precision numbers. They are modelled exactly: a finite number is a
sign, a mantissa and a power of two, and every operation rounds the exact result to the nearest
number, a tie to the even mantissa. Main statement: rounding a quotient to an integer is off by
at most half.
-/

namespace CloudClient

/-- A double-precision number. The finite ones stand for the mantissa times two to the exponent,
negated or not. -/
inductive Binary64 where
  | finite (negative : Bool) (mantissa : Nat) (exponent : Int)
  | infinite (negative : Bool)
  | notANumber
  deriving DecidableEq, Repr

namespace Binary64

/-- The quotient rounded to the nearest integer, a tie to the even one. -/
def divideToEven (num den : Nat) : Nat :=
  let q := num / den
  let r := num % den
  if den < 2 * r || (den == 2 * r && q % 2 == 1) then q + 1 else q

/-- Rounding a quotient to an integer is off by at most half. -/
theorem divideToEven_bounds (num : Nat) {den : Nat} (h : 0 < den) :
    2 * num ≤ 2 * (den * divideToEven num den) + den ∧
      2 * (den * divideToEven num den) ≤ 2 * num + den := by
  have hdiv := Nat.div_add_mod num den
  have hmod := Nat.mod_lt num h
  unfold divideToEven
  simp only [Bool.or_eq_true, Bool.and_eq_true, decide_eq_true_eq, beq_iff_eq]
  split
  · rw [Nat.mul_succ]
    omega
  · omega

/-- The exponent of the smallest positive number. -/
def minExponent : Int := -1074

/-- The exponent of the largest finite number. -/
def maxExponent : Int := 971

/-- A positive quotient as numerator and denominator after division by a power of two. -/
def unscaled (num den : Nat) (e : Int) : Nat × Nat :=
  if 0 ≤ e then (num, den * Nat.pow 2 e.toNat) else (num * Nat.pow 2 (-e).toNat, den)

/-- The largest `k` with two to the `k` at most the positive quotient. -/
def log2Quotient (num den : Nat) : Int :=
  let k : Int := (Nat.log2 num : Int) - (Nat.log2 den : Int)
  let (n, d) := unscaled num den k
  if d ≤ n then k else k - 1

/-- The zero of a sign. -/
def zero (negative : Bool) : Binary64 := finite negative 0 minExponent

/-- The double-precision number nearest to a quotient. -/
def round (negative : Bool) (num den : Nat) : Binary64 :=
  if num = 0 then zero negative
  else
    let e := max (log2Quotient num den - 52) minExponent
    let (n, d) := unscaled num den e
    let m := divideToEven n d
    let (m, e) := if m = Nat.pow 2 53 then (Nat.pow 2 52, e + 1) else (m, e)
    if maxExponent < e then infinite negative else finite negative m e

/-- The nearest number to a mantissa times a power of two. -/
def ofScaled (negative : Bool) (mantissa : Nat) (exponent : Int) : Binary64 :=
  let (n, d) := unscaled mantissa 1 (-exponent)
  round negative n d

/-- The nearest number to an integer; infinite when it is out of range. -/
def ofInt (n : Int) : Binary64 :=
  round (n < 0) n.natAbs 1

/-- The nearest number to a mantissa times a power of ten. Decimal exponents far out of range are
settled without computing the power. -/
def ofDecimal (negative : Bool) (mantissa : Nat) (exponent : Int) : Binary64 :=
  if mantissa = 0 then zero negative
  else if 400 < exponent then infinite negative
  else if exponent + (Nat.log2 mantissa : Int) < -400 then zero negative
  else if 0 ≤ exponent then round negative (mantissa * Nat.pow 10 exponent.toNat) 1
  else round negative mantissa (Nat.pow 10 (-exponent).toNat)

/-! ## Order -/

/-- The exact value as a fraction, for finite numbers. -/
def fraction? : Binary64 → Option (Int × Nat)
  | finite negative m e =>
    let (n, d) := unscaled m 1 (-e)
    some (if negative then -(n : Int) else n, d)
  | _ => none

/-- The number is strictly below an integer. -/
def ltInt (x : Binary64) (n : Int) : Bool :=
  match x with
  | finite .. =>
    match x.fraction? with
    | some (a, b) => a < n * b
    | none => false
  | infinite negative => negative
  | notANumber => false

/-- The number is at most an integer. -/
def leInt (x : Binary64) (n : Int) : Bool :=
  match x with
  | finite .. =>
    match x.fraction? with
    | some (a, b) => a ≤ n * b
    | none => false
  | infinite negative => negative
  | notANumber => false

/-- Equality of values: the two zeros are equal, and a value that is no number equals nothing. -/
def sameValue (x y : Binary64) : Bool :=
  match x, y with
  | notANumber, _ => false
  | _, notANumber => false
  | _, _ =>
    match x.fraction?, y.fraction? with
    | some (a, b), some (c, d) => a * d == c * b
    | none, none => x == y
    | _, _ => false

/-! ## Arithmetic -/

/-- The product. -/
def mul : Binary64 → Binary64 → Binary64
  | finite s m e, finite t n f => ofScaled (s != t) (m * n) (e + f)
  | notANumber, _ => notANumber
  | _, notANumber => notANumber
  | infinite s, infinite t => infinite (s != t)
  | infinite s, finite t n _ => if n = 0 then notANumber else infinite (s != t)
  | finite s m _, infinite t => if m = 0 then notANumber else infinite (s != t)

/-- The mantissa with its sign. -/
def signed (negative : Bool) (m : Nat) : Int :=
  if negative then -(m : Int) else m

/-- The sum. -/
def add : Binary64 → Binary64 → Binary64
  | finite s m e, finite t n f =>
    let g := min e f
    let a := signed s (m * Nat.pow 2 (e - g).toNat)
    let b := signed t (n * Nat.pow 2 (f - g).toNat)
    if a + b = 0 then zero (s && t) else ofScaled (a + b < 0) (a + b).natAbs g
  | notANumber, _ => notANumber
  | _, notANumber => notANumber
  | infinite s, infinite t => if s = t then infinite s else notANumber
  | infinite s, finite .. => infinite s
  | finite .., infinite t => infinite t

/-- The quotient by a positive whole number. -/
def divNat (x : Binary64) (k : Nat) : Binary64 :=
  match x with
  | finite s m e =>
    let (n, d) := unscaled m 1 (-e)
    round s n (d * k)
  | other => other

/-- The quotient of an integer by a positive whole number. -/
def quotient (n : Int) (k : Nat) : Binary64 :=
  round (n < 0) n.natAbs k

/-! ## Powers -/

/-- Why a power is no double-precision number. -/
inductive PowerError where
  /-- The power is out of range. -/
  | outOfRange
  /-- Zero has no negative powers. -/
  | zeroToNegative
  deriving DecidableEq, Repr

/-- The text of an error in a power. -/
def PowerError.message : PowerError → String
  | outOfRange => "(34, 'Numerical result out of range')"
  | zeroToNegative => "0.0 cannot be raised to a negative power"

/-- A positive number as an odd mantissa and an exponent; `fuel` bounds the halvings. -/
def reduced : Nat → Nat → Int → Nat × Int
  | 0, m, e => (m, e)
  | fuel + 1, m, e => if m % 2 = 0 then reduced fuel (m / 2) (e + 1) else (m, e)

/-- The whole power of a positive finite number, settled by its size alone where the result is
far out of range. -/
def powPositive (negative : Bool) (m : Nat) (e : Int) (k : Int) : Binary64 :=
  let (m, e) := reduced 64 m e
  let n := k.natAbs
  let l : Int := (Nat.log2 m : Int) + e
  let low := if 0 ≤ k then l * n else -((l + 1) * n)
  let high := if 0 ≤ k then (l + 1) * n else -(l * n)
  if 1100 < low then infinite negative
  else if high < -1200 then zero negative
  else if 0 ≤ k then ofScaled negative (Nat.pow m n) (e * n)
  else
    let (a, b) := unscaled 1 (Nat.pow m n) (e * n)
    round negative a b

/-- The whole power of a number. A finite number has no infinite power. -/
def pow (x : Binary64) (k : Int) : Except PowerError Binary64 :=
  if k = 0 then .ok (ofInt 1)
  else
    match x with
    | notANumber => .ok notANumber
    | infinite s =>
      if 0 < k then .ok (infinite (s && k % 2 == 1)) else .ok (zero (s && k % 2 == 1))
    | finite s m e =>
      if m = 0 then
        if 0 < k then .ok (zero (s && k % 2 == 1)) else .error .zeroToNegative
      else
        match powPositive (s && k % 2 == 1) m e k with
        | infinite _ => .error .outOfRange
        | y => .ok y

end Binary64

end CloudClient
