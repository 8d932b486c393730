import Bibliography.Calendar.Date
import Bibliography.Yaml.Fault
/-!
# Dates and moments in a document

A date, or a date with a time of day behind it. The time may have a fraction
of a second and a distance from universal time.
-/

namespace Bibliography.Yaml

/-- A distance from universal time as it is written. -/
inductive Zone where
  | universal
  | offset (isNegative : Bool) (hours minutes : Nat)
  deriving DecidableEq, Repr

/-- A time of day as it is written. -/
structure Clock where
  hour : Nat
  minute : Nat
  second : Nat
  /-- The digits behind the point. -/
  fraction : List Char
  zone : Option Zone
  deriving DecidableEq, Repr

/-- A date or moment as it is written. -/
structure Stamp where
  year : Nat
  month : Nat
  day : Nat
  /-- Whether month and day have two digits. -/
  isPadded : Bool
  clock : Option Clock
  deriving DecidableEq, Repr

namespace Stamp

/-- A run of at least `least` and at most `most` digits, and the rest. -/
def digits? (least most : Nat) (cs : List Char) : Option (List Char × List Char) :=
  let run := cs.takeWhile Char.isDigit
  if least ≤ run.length && run.length ≤ most then some (run, cs.dropWhile Char.isDigit) else none

/-- The number of such a run, and the rest. -/
def number? (least most : Nat) (cs : List Char) : Option (Nat × List Char) :=
  (digits? least most cs).map fun (run, rest) => (Number.ofDigits 10 run, rest)

/-- The text behind a character that has to stand in front. -/
def behind? (mark : Char) : List Char → Option (List Char)
  | c :: rest => if c = mark then some rest else none
  | [] => none

/-- A blank before a time of day or a zone. -/
def isBlank (c : Char) : Bool := c == ' ' || c == '\t'

/-- Reads what stands behind a time of day: nothing or a zone. -/
def zone? (cs : List Char) : Option (Option Zone) :=
  match cs.dropWhile isBlank with
  | [] => if cs.isEmpty then some none else none
  | ['Z'] => some (some .universal)
  | sign :: rest => do
    if sign != '-' && sign != '+' then none
    else
      let (hours, rest) ← number? 1 2 rest
      match rest with
      | [] => some (some (.offset (sign == '-') hours 0))
      | _ =>
        let (minutes, rest) ← number? 2 2 (← behind? ':' rest)
        if rest.isEmpty then some (some (.offset (sign == '-') hours minutes)) else none

/-- Reads a time of day up to the end of the text. -/
def clock? (cs : List Char) : Option Clock := do
  let (hour, rest) ← number? 1 2 cs
  let (minute, rest) ← number? 2 2 (← behind? ':' rest)
  let (second, rest) ← number? 2 2 (← behind? ':' rest)
  let (fraction, rest) := match rest with
    | '.' :: rest => (rest.takeWhile Char.isDigit, rest.dropWhile Char.isDigit)
    | _ => ([], rest)
  let zone ← zone? rest
  return ⟨hour, minute, second, fraction, zone⟩

/-- The text behind what separates a date from a time of day. -/
def behindSeparator? (cs : List Char) : Option (List Char) :=
  match cs with
  | c :: rest =>
    if c = 'T' || c = 't' then some rest
    else if isBlank c then some (rest.dropWhile isBlank)
    else none
  | [] => none

/-- Reads a date or moment. -/
def ofChars? (cs : List Char) : Option Stamp := do
  let (year, rest) ← number? 4 4 cs
  let (month, rest) ← digits? 1 2 (← behind? '-' rest)
  let (day, rest) ← digits? 1 2 (← behind? '-' rest)
  let date : Stamp :=
    { year, month := Number.ofDigits 10 month, day := Number.ofDigits 10 day
      isPadded := month.length = 2 && day.length = 2, clock := none }
  match rest with
  | [] => return date
  | _ => return { date with clock := some (← clock? (← behindSeparator? rest)) }

/-- Whether a text without marks of its own is a date or moment: a date alone
has two digits for month and day. -/
def isPlain (s : Stamp) : Bool :=
  s.isPadded || s.clock.isSome

/-- The fraction of a second in millionths. -/
def microseconds (fraction : List Char) : Nat :=
  let six := fraction.take 6
  Number.ofDigits 10 (six ++ List.replicate (6 - six.length) '0')

/-- The distance of a zone from universal time in seconds. -/
def zoneSeconds : Zone → Int
  | .universal => 0
  | .offset isNegative hours minutes =>
    let n : Int := hours * 3600 + minutes * 60
    if isNegative then -n else n

/-- Year, month and day, if there is such a day. -/
def dateParts (s : Stamp) : Except DateFault (List Int) :=
  if s.year = 0 then .error (.year 0)
  else if s.month = 0 || 12 < s.month then .error .month
  else if s.day = 0 || Calendar.monthLength s.year s.month < s.day then .error .day
  else .ok [s.year, s.month, s.day]

/-- Hour, minute, second and millionths, if there is such a time of day. -/
def clockParts (c : Clock) : Except DateFault (List Int) :=
  if 23 < c.hour then .error .hour
  else if 59 < c.minute then .error .minute
  else if 59 < c.second then .error .second
  else .ok [c.hour, c.minute, c.second, microseconds c.fraction]

/-- The distance from universal time in seconds, if there is one; it is less
than a day. -/
def zoneParts (c : Clock) : Except DateFault (List Int) :=
  match c.zone with
  | none => .ok []
  | some z =>
    if 86400 ≤ (zoneSeconds z).natAbs then .error (.zone (zoneSeconds z))
    else .ok [zoneSeconds z]

/-- The numbers of a date or moment, which has to exist: the zone is checked
first. -/
def parts (s : Stamp) : Except DateFault (List Int) :=
  match s.clock with
  | none => s.dateParts
  | some c => do
    let zone ← zoneParts c
    let date ← s.dateParts
    let clock ← clockParts c
    return date ++ clock ++ zone

end Stamp

end Bibliography.Yaml
