import Bibliography.Calendar.FreeForm.Piece
import Bibliography.Calendar.Reader
import Bibliography.Text.Numeral
/-!
# The meaning of single pieces

The words that have a meaning in a date, and the numbers.
-/

namespace Bibliography.Calendar.FreeForm.Piece

/-- The piece in lower case, as a string to compare with. -/
def key (p : Piece) : String := String.ofList (Text.lower p)

/-- Words and signs without a meaning. -/
def isFiller (p : Piece) : Bool :=
  [" ", ".", ",", ";", "-", "/", "'", "at", "on", "and", "ad", "m", "t", "of", "st", "nd", "rd",
    "th"].contains (key p)

/-- The names of the weekdays. -/
def weekdayNames : List (List String) :=
  [["mon", "monday"], ["tue", "tuesday"], ["wed", "wednesday"], ["thu", "thursday"],
    ["fri", "friday"], ["sat", "saturday"], ["sun", "sunday"]]

/-- The number of a weekday, from its name. -/
def weekday? (p : Piece) : Option Nat :=
  (weekdayNames.findIdx? (·.contains (key p))).map (· + 1)

/-- The names of the months. -/
def monthNames : List (List String) :=
  [["jan", "january"], ["feb", "february"], ["mar", "march"], ["apr", "april"], ["may"],
    ["jun", "june"], ["jul", "july"], ["aug", "august"], ["sep", "sept", "september"],
    ["oct", "october"], ["nov", "november"], ["dec", "december"]]

/-- The number of a month, from its name. -/
def month? (p : Piece) : Option Nat :=
  (monthNames.findIdx? (·.contains (key p))).map (· + 1)

/-- The parts of a time of day that a unit can name. -/
inductive Unit where
  | hour
  | minute
  | second
  deriving DecidableEq

/-- The unit of a time of day. -/
def unit? (p : Piece) : Option Unit :=
  let k := key p
  if ["h", "hour", "hours"].contains k then some .hour
  else if ["m", "minute", "minutes"].contains k then some .minute
  else if ["s", "second", "seconds"].contains k then some .second
  else none

/-- The half of the day: whether it is the second. -/
def isAfternoon? (p : Piece) : Option Bool :=
  let k := key p
  if k = "am" || k = "a" then some false
  else if k = "pm" || k = "p" then some true
  else none

/-- The word between a month and a year. -/
def isOf (p : Piece) : Bool := key p == "of"

/-- A name of universal time, in any case. -/
def isUniversal (p : Piece) : Bool := ["utc", "gmt", "z"].contains (key p)

/-- Whether the piece can be the name of a zone: at most five capitals. -/
def isZoneName (p : Piece) : Bool :=
  p.length ≤ 5 && (p.all (fun c => 'A' ≤ c && c ≤ 'Z') || p == ['z'])

/-! ## Numbers -/

/-- A decimal number: `digits / 10 ^ places`. -/
structure Decimal where
  digits : Nat
  places : Nat

namespace Decimal

/-- The whole part. -/
def whole (d : Decimal) : Nat := d.digits / Nat.pow 10 d.places

/-- How many digits arithmetic keeps. -/
def precision : Nat := 28

/-- How many digits a number is written with. -/
def width (n : Nat) : Nat := (Nat.toDigits 10 n).length

/-- The number with as many digits as arithmetic keeps: the nearest one, and
of two the even one. -/
def rounded (d : Decimal) : Decimal :=
  let excess := width d.digits - precision
  let unit := Nat.pow 10 excess
  let kept := d.digits / unit
  let rest := 2 * (d.digits % unit)
  let isUp := unit < rest || unit = rest && kept % 2 = 1
  ⟨if isUp then kept + 1 else kept, d.places - excess⟩

/-- What is left of a number cannot be told where its whole part has more
digits than arithmetic keeps. -/
def crash : Crash := ⟨"InvalidOperation", "[<class 'decimal.DivisionImpossible'>]"⟩

/-- Sixty times what is left without the whole part, rounded down; nothing if
nothing is left. -/
def sixtieths (d : Decimal) : Except ReadingFault (Option Nat) :=
  if precision < width d.whole then .error (.crashed crash)
  else
    let rest := rounded ⟨d.digits % Nat.pow 10 d.places, d.places⟩
    if rest.digits = 0 then .ok none
    else .ok (some (rounded ⟨60 * rest.digits, rest.places⟩).whole)

/-- Whether the number is at least `n`. -/
def atLeast (d : Decimal) (n : Nat) : Bool := n * Nat.pow 10 d.places ≤ d.digits

/-- Whether the number is at most `n`. -/
def atMost (d : Decimal) (n : Nat) : Bool := d.digits ≤ n * Nat.pow 10 d.places

end Decimal

/-- The integer that decimal digits of any script write. -/
def nat? (p : Piece) : Option Nat :=
  if !p.isEmpty && p.all Text.isDecimal then some (Text.ofDecimals p) else none

/-- The number that a piece writes. -/
def decimal? (p : Piece) : Option Decimal :=
  let whole := p.takeWhile Text.isDecimal
  match p.dropWhile Text.isDecimal with
  | [] => if whole.isEmpty then none else some ⟨Text.ofDecimals whole, 0⟩
  | '.' :: fraction =>
    if !whole.isEmpty && fraction.all Text.isDecimal then
      some ⟨Text.ofDecimals (whole ++ fraction), fraction.length⟩
    else none
  | _ => none

/-- Words that read as a number without a finite value; no date has one. -/
def isNotFinite (p : Piece) : Bool := ["nan", "inf", "infinity"].contains (key p)

/-- Seconds and microseconds of a number of seconds. -/
def seconds? (p : Piece) : Option (Nat × Nat) :=
  match p.span (· != '.') with
  | (whole, []) => (nat? whole).map (·, 0)
  | (whole, _ :: fraction) =>
    if fraction.contains '.' then none
    else do
      let seconds ← nat? whole
      let micros ← nat? ((fraction ++ List.replicate (6 - fraction.length) '0').take 6)
      return (seconds, micros)

end Bibliography.Calendar.FreeForm.Piece
