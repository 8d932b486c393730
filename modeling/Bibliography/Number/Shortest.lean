import Bibliography.Number.Binary64
/-!
# The shortest decimal of a number

A finite number of double precision is written with the fewest decimal
digits that read back as the same number, and with the nearest such digits.
-/

namespace Bibliography.Binary64

/-- A finite number's exact value as a quotient. -/
def ratio (significand : Nat) (exponent : Int) : Nat × Nat :=
  if 0 ≤ exponent then (significand * Nat.pow 2 exponent.toNat, 1)
  else (significand, Nat.pow 2 (-exponent).toNat)

/-- Where the point stands: the value is below `10 ^ point` and not below
`10 ^ (point - 1)`. The shift by 340 places makes every positive value of the
format at least one. -/
def decimalPoint (num den : Nat) : Int :=
  ((Number.decimalDigits (num * Nat.pow 10 340 / den)).length : Int) - 340

/-- The two neighbours of a value on a grid of decimals: the nearer and the
other one, and the exponent of the grid. -/
structure Neighbours where
  first : Nat
  second : Nat
  unit : Int

/-- The neighbours of a value on the grid of `n`-digit decimals. Of two that
are equally near the even one is the first. -/
def neighbours (significand : Nat) (exponent : Int) (n : Nat) : Neighbours :=
  let (num, den) := ratio significand exponent
  let unit := decimalPoint num den - n
  let (num, den) :=
    if 0 ≤ unit then (num, den * Nat.pow 10 unit.toNat)
    else (num * Nat.pow 10 (-unit).toNat, den)
  let below := num / den
  let rest := num % den
  let up := den < 2 * rest || (2 * rest == den && below % 2 == 1)
  if up then ⟨below + 1, below, unit⟩ else ⟨below, below + 1, unit⟩

/-- The first neighbour that passes a test, as digits and exponent. -/
def Neighbours.find? (c : Neighbours) (passes : Nat → Int → Bool) : Option (Nat × Int) :=
  if passes c.first c.unit then some (c.first, c.unit)
  else if passes c.second c.unit then some (c.second, c.unit)
  else none

/-- Whether a decimal is rounded to a number. -/
def readsBack (significand : Nat) (exponent : Int) (digits : Nat) (unit : Int) : Bool :=
  ofDecimal false digits unit == finite false significand exponent

/-- Of the neighbours of a value on the grid of `n`-digit decimals, the nearest
that reads back. -/
def onGrid? (significand : Nat) (exponent : Int) (n : Nat) : Option (Nat × Int) :=
  (neighbours significand exponent n).find? (readsBack significand exponent)

/-- The exact decimal of a number. -/
def exactDecimal (significand : Nat) (exponent : Int) : Nat × Int :=
  if 0 ≤ exponent then (significand * Nat.pow 2 exponent.toNat, 0)
  else (significand * Nat.pow 5 (-exponent).toNat, exponent)

/-- What the first attempt from number `n` on comes to that does not fail;
after `more` attempts, the last resort. -/
def firstFrom (attempt? : Nat → Option (Nat × Int)) (resort : Nat × Int) (n : Nat) :
    (more : Nat) → Nat × Int
  | 0 => resort
  | more + 1 =>
    match attempt? n with
    | some found => found
    | none => firstFrom attempt? resort (n + 1) more

/-- Digits and decimal exponent of the shortest decimal of a positive number:
that on the first grid which holds one that reads back. -/
def shortest (significand : Nat) (exponent : Int) : Nat × Int :=
  firstFrom (onGrid? significand exponent) (exactDecimal significand exponent) 1 17

/-- The digits without the zeros at their end, and the exponent that makes up
for them. -/
def trimZeros (digits : List Char) : List Char :=
  (digits.reverse.dropWhile (· == '0')).reverse

/-- How the text of a number is laid out: positional when the point stands
above `lowest` and at most at `highest`, and otherwise with an exponent of at
least two digits. -/
structure Layout where
  lowest : Int
  highest : Int

/-- Texts are positional from a ten-thousandth up to sixteen digits. -/
def layout : Layout := ⟨-4, 16⟩

/-- Lays out the digits of a positive value `0.digits * 10 ^ point`. -/
def layOut (digits : List Char) (point : Int) : List Char :=
  if layout.lowest < point && point ≤ layout.highest then
    if point ≤ 0 then '0' :: '.' :: (List.replicate (-point).toNat '0' ++ digits)
    else
      let whole := digits.take point.toNat
      let fraction := digits.drop point.toNat
      whole ++ List.replicate (point.toNat - whole.length) '0' ++ '.' ::
        (if fraction.isEmpty then ['0'] else fraction)
  else
    let power := point - 1
    let mantissa := match digits with
      | d :: [] => [d]
      | d :: rest => d :: '.' :: rest
      | [] => []
    let size := Number.decimalDigits power.natAbs
    mantissa ++ 'e' :: (if power < 0 then '-' else '+') ::
      (List.replicate (2 - size.length) '0' ++ size)

/-- The texts of the values that are not finite. -/
structure SpecialTexts where
  nan : String
  infinity : String

/-- The text of a number: the shortest decimal that reads back, with a point
or an exponent in it. -/
def text (special : SpecialTexts) : Binary64 → String
  | nan => special.nan
  | infinity negative => if negative then "-" ++ special.infinity else special.infinity
  | finite negative significand exponent =>
    let body :=
      if significand = 0 then ['0', '.', '0']
      else
        let (digits, e) := shortest significand exponent
        let digits := Number.decimalDigits digits
        layOut (trimZeros digits) (digits.length + e)
    String.ofList (if negative then '-' :: body else body)

end Bibliography.Binary64
