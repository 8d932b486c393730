import Bibliography.Number.Binary64
import Bibliography.Text.Numeral
/-!
# Real numerals

Numbers as they are typed: digits of any script with a point among them and
an exponent behind them, or a word for a number that is not finite.
-/

namespace Bibliography.Text

/-- The words for numbers that are not finite. -/
def realWord? (negative : Bool) (word : List Char) : Option Binary64 :=
  if word = "inf".toList || word = "infinity".toList then some (.infinity negative)
  else if word = "nan".toList then some .nan
  else none

/-- The exponent that ends a numeral; zero where nothing stands. -/
def readExponent? : List Char → Option Int
  | [] => some 0
  | e :: rest =>
    if e.toLower = 'e' then
      let (negative, digits) := match rest with
        | '-' :: ds => (true, ds)
        | '+' :: ds => (false, ds)
        | ds => (false, ds)
      if digits.isEmpty || !digits.all Char.isDigit then none
      else
        let n : Int := Number.ofDigits 10 digits
        some (if negative then -n else n)
    else none

/-- Reads a numeral without its sign. A digit has to stand on one side of the
point. -/
def readMagnitude? (negative : Bool) (cs : List Char) : Option Binary64 :=
  let whole := cs.takeWhile Char.isDigit
  let rest := cs.dropWhile Char.isDigit
  let (fraction, rest) := match rest with
    | '.' :: rest => (rest.takeWhile Char.isDigit, rest.dropWhile Char.isDigit)
    | _ => ([], rest)
  let digits := whole ++ fraction
  if digits.isEmpty then none
  else (readExponent? rest).map fun exponent =>
    .ofDecimal negative (Number.ofDigits 10 digits) (exponent - fraction.length)

/-- Reads a typed real number: blanks around it, a sign, and a numeral or a
word. -/
def readReal? (cs : List Char) : Option Binary64 :=
  let body := stripPlain (plainForm cs)
  let (negative, body) := match body with
    | '-' :: rest => (true, rest)
    | '+' :: rest => (false, rest)
    | _ => (false, body)
  match realWord? negative (body.map Char.toLower) with
  | some x => some x
  | none => readMagnitude? negative body

end Bibliography.Text
