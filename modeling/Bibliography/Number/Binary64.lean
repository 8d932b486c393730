import Bibliography.Number.Digits
/-!
# Numbers of double precision

A number with a fraction or an exponent is kept in double precision: 53
binary digits and an exponent between −1074 and 971. Values are exact
integers here, and every operation is the exact result rounded once, to
nearest with ties to even.
-/

namespace Bibliography

/-- A number of double precision. A finite one is `significand * 2 ^ exponent`,
with `significand < 2 ^ 53`, and at least `2 ^ 52` unless the exponent is −1074. -/
inductive Binary64 where
  | nan
  | infinity (negative : Bool)
  | finite (negative : Bool) (significand : Nat) (exponent : Int)
  deriving DecidableEq, Repr, Inhabited

namespace Binary64

/-- The quotient rounded to nearest, with ties to even. -/
def roundQuotient (num den : Nat) : Nat :=
  let q := num / den
  let r := num % den
  if 2 * r < den then q
  else if den < 2 * r then q + 1
  else q + q % 2

/-- Numerator and denominator of `num / den / 2 ^ e`. -/
def scaleDown (num den : Nat) (e : Int) : Nat × Nat :=
  if 0 ≤ e then (num, den * Nat.pow 2 e.toNat) else (num * Nat.pow 2 (-e).toNat, den)

/-- The number nearest to `num / den`, with the given sign. -/
def ofRatio (negative : Bool) (num den : Nat) : Binary64 :=
  if num = 0 then finite negative 0 (-1074)
  else
    let guess : Int := (num.log2 : Int) - den.log2 - 52
    let (n, d) := scaleDown num den guess
    let e := max (if n < Nat.pow 2 52 * d then guess - 1 else guess) (-1074)
    let (n, d) := scaleDown num den e
    let m := roundQuotient n d
    let (m, e) := if m = Nat.pow 2 53 then (Nat.pow 2 52, e + 1) else (m, e)
    if 971 < e then infinity negative else finite negative m e

/-- The number nearest to `digits * 10 ^ exponent`. Exponents far outside the
range of the format are settled without building the power of ten. -/
def ofDecimal (negative : Bool) (digits : Nat) (exponent : Int) : Binary64 :=
  let top := (Number.decimalDigits digits).length + exponent
  if digits = 0 || top < -400 then finite negative 0 (-1074)
  else if 400 < top then infinity negative
  else if 0 ≤ exponent then ofRatio negative (digits * Nat.pow 10 exponent.toNat) 1
  else ofRatio negative digits (Nat.pow 10 (-exponent).toNat)

/-- The number nearest to an integer. -/
def ofInt (n : Int) : Binary64 :=
  ofRatio (n < 0) n.natAbs 1

/-- Zero, of either sign. -/
def isZero : Binary64 → Bool
  | finite _ 0 _ => true
  | _ => false

/-- Whether the number carries a minus sign. -/
def isNegative : Binary64 → Bool
  | nan => false
  | infinity s => s
  | finite s _ _ => s

/-- The number with the opposite sign. -/
def neg : Binary64 → Binary64
  | nan => nan
  | infinity s => infinity (!s)
  | finite s m e => finite (!s) m e

/-- The number nearest to `n * 2 ^ e`; zero is positive. -/
def ofScaled (n e : Int) : Binary64 :=
  if 0 ≤ e then ofRatio (n < 0) (n.natAbs * Nat.pow 2 e.toNat) 1
  else ofRatio (n < 0) n.natAbs (Nat.pow 2 (-e).toNat)

/-- A finite number's significand with its sign. -/
def signed (negative : Bool) (significand : Nat) : Int :=
  if negative then -significand else significand

/-- The sum. -/
def add : Binary64 → Binary64 → Binary64
  | finite s m e, finite t n f =>
    if m = 0 && n = 0 then finite (s && t) 0 (-1074)
    else
      let low := min e f
      ofScaled (signed s (m * Nat.pow 2 (e - low).toNat) +
        signed t (n * Nat.pow 2 (f - low).toNat)) low
  | nan, _ => nan
  | _, nan => nan
  | infinity s, infinity t => if s = t then infinity s else nan
  | infinity s, _ => infinity s
  | _, infinity t => infinity t

/-- The product. -/
def mul : Binary64 → Binary64 → Binary64
  | finite s m e, finite t n f =>
    if m = 0 || n = 0 then finite (s != t) 0 (-1074)
    else ofScaled (signed (s != t) (m * n)) (e + f)
  | nan, _ => nan
  | _, nan => nan
  | infinity s, x => if x.isZero then nan else infinity (s != x.isNegative)
  | x, infinity s => if x.isZero then nan else infinity (s != x.isNegative)

/-- The integer that the number is, if it is one. -/
def toInt? : Binary64 → Option Int
  | finite s m e =>
    if 0 ≤ e then some (signed s (m * Nat.pow 2 e.toNat))
    else
      let scale := Nat.pow 2 (-e).toNat
      if m % scale = 0 then some (signed s (m / scale)) else none
  | _ => none

end Binary64

end Bibliography
