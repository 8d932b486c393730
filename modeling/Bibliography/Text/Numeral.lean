import Bibliography.Text.Blank
import Bibliography.Text.Digit
import Bibliography.Text.Quoted
/-!
# Integer numerals

Integers are read from the decimal digits of any script. A text that looks
like a numeral may still not be one: typographic digits have no place in
it, and it may have too many digits.
-/

namespace Bibliography

/-- Why a text of digits is not the numeral of an integer, or an integer has
no numeral. -/
inductive NumeralError where
  /-- It is no numeral in the base. -/
  | notNumeral (base : Nat) (text : String)
  /-- It has too many digits. -/
  | tooManyDigits (count : Nat)
  /-- The integer would need too many digits to be written. -/
  | tooManyToWrite
  deriving DecidableEq, Repr

/-- What is reported. A long text is shown by its first 200 characters. -/
def NumeralError.message : NumeralError → String
  | notNumeral base text =>
    "invalid literal for int() with base " ++ Number.intText base ++ ": " ++
      String.ofList ((quoted text).toList.take 200)
  | tooManyDigits count =>
    "Exceeds the limit (4300 digits) for integer string conversion: value has " ++
      Number.intText count ++
      " digits; use sys.set_int_max_str_digits() to increase the limit"
  | tooManyToWrite =>
    "Exceeds the limit (4300 digits) for integer string conversion; " ++
      "use sys.set_int_max_str_digits() to increase the limit"

/-- The numeral of an integer, which may not have too many digits either. -/
def writeInt (n : Int) : Except NumeralError String :=
  if Number.maxDigits < (Number.decimalDigits n.natAbs).length then .error .tooManyToWrite
  else .ok (Number.intText n)

namespace Text

/-- Whether the character is a decimal digit of some script. -/
def isDecimal (c : Char) : Bool :=
  (digitValue? c).isSome

/-- The number that decimal digits write. -/
def ofDecimals (cs : List Char) : Nat :=
  cs.foldl (fun n c => 10 * n + (digitValue? c).getD 0) 0

/-- Whether the text is made of digits in the wide sense, one or more. -/
def isDigitText (cs : List Char) : Bool :=
  !cs.isEmpty && cs.all isDigitLike

/-- Reads a text of digits. -/
def readDigitText (cs : List Char) : Except NumeralError Nat :=
  let run := cs.takeWhile isDecimal
  if Number.maxDigits < run.length then .error (.tooManyDigits run.length)
  else if run.length < cs.length then .error (.notNumeral 10 (String.ofList cs))
  else .ok (ofDecimals cs)

/-! ## Numerals as they are typed -/

/-- The blanks around a typed numeral. -/
def isPlainBlank (c : Char) : Bool :=
  c == ' ' || (9 ≤ c.toNat && c.toNat ≤ 13)

/-- A character of a typed numeral in plain form: decimal digits of any script
become 0 to 9 and blanks become spaces. A text of plain characters alone is
left as it is. -/
def plainChar (c : Char) : Char :=
  if c.toNat < 0x7f then c
  else if isBlank c then ' '
  else match digitValue? c with
    | some d => Nat.digitChar d
    | none => '?'

/-- A text in plain form. -/
def plainForm (cs : List Char) : List Char :=
  if cs.all (·.toNat < 0x80) then cs else cs.map plainChar

/-- The text without the blanks at its two ends. -/
def stripPlain (cs : List Char) : List Char :=
  ((cs.dropWhile isPlainBlank).reverse.dropWhile isPlainBlank).reverse

/-- Whether the character is a digit of the base. -/
def isDigitIn (base : Nat) (c : Char) : Bool :=
  Number.isHexDigit c && Number.digitValue c < base

/-- The digits of a numeral whose digits may be grouped by single underscores. -/
def ungroup? (base : Nat) : List Char → Option (List Char)
  | [] => none
  | [c] => if isDigitIn base c then some [c] else none
  | c :: '_' :: rest => if isDigitIn base c then (ungroup? base rest).map (c :: ·) else none
  | c :: rest => if isDigitIn base c then (ungroup? base rest).map (c :: ·) else none

/-- The letter that may stand after a zero in front of a numeral to name its
base. -/
def baseLetter? : Nat → Option Char
  | 2 => some 'b'
  | 8 => some 'o'
  | 16 => some 'x'
  | _ => none

/-- A numeral without the sign of its base, which one underscore may follow. -/
def dropBase (base : Nat) (cs : List Char) : List Char :=
  match cs with
  | '0' :: letter :: rest =>
    if baseLetter? base == some letter.toLower then
      match rest with
      | '_' :: rest => rest
      | _ => rest
    else cs
  | _ => cs

/-- Reads a typed integer in a base: blanks around it, a sign, the sign of the
base, and digits in groups. Only decimal numerals may have too many digits. -/
def readIntIn (base : Nat) (cs : List Char) : Except NumeralError Int :=
  let body := stripPlain (plainForm cs)
  let (negative, body) := match body with
    | '-' :: rest => (true, rest)
    | '+' :: rest => (false, rest)
    | _ => (false, body)
  match ungroup? base (dropBase base body) with
  | some digits =>
    if base = 10 && Number.maxDigits < digits.length then .error (.tooManyDigits digits.length)
    else
      let n : Int := Number.ofDigits base digits
      .ok (if negative then -n else n)
  | none => .error (.notNumeral base (String.ofList cs))

/-- Reads a typed decimal integer. -/
def readInt? (cs : List Char) : Option Int :=
  (readIntIn 10 cs).toOption

end Text

end Bibliography
