import Bibliography.Calendar.Reader
import Bibliography.Text.Numeral
/-!
# The standard notation of moments

Years with months and days, weeks and weekdays, or days of the year, and
after one character of any kind a time of day, in full or shortened, with
or without separators. Midnight at the end of a day may be written as the
hour 24. Fields are read as integers and so may hold a sign or a blank.
-/

namespace Bibliography.Calendar.Iso

/-- Reads year, month and day, or a part of them from the front. -/
def calendarDate? (cs : List Char) : Option ((Int × Int × Int) × List Char) := do
  if cs.length < 4 then none
  let year ← Text.readInt? (cs.take 4)
  match cs.drop 4 with
  | [] => return ((year, 1, 1), [])
  | c :: afterYear =>
    let separated := c == '-'
    let rest := if separated then afterYear else c :: afterYear
    if rest.length < 2 then none
    let month ← Text.readInt? (rest.take 2)
    match rest.drop 2 with
    | [] => if separated then return ((year, month, 1), []) else none
    | d :: afterMonth =>
      if separated && d != '-' then none
      let rest := if separated then afterMonth else d :: afterMonth
      if rest.length < 2 then none
      let day ← Text.readInt? (rest.take 2)
      return ((year, month, day), rest.drop 2)

/-- The day of a week of a year. The first week is the one with the fourth of
January in it. -/
def weekDate? (year week day : Int) : Option Date := do
  if week < 1 || 53 < week || day < 1 || 7 < day then none
  let fourth ← Date.ofParts? year 1 4
  Date.ofOrdinal? ((fourth.ordinal : Int) - (fourth.weekday - 1) + ((week - 1) * 7 + (day - 1)))

/-- Reads a week and perhaps a weekday, or a day of the year. -/
def otherDate? (cs : List Char) : Option ((Int × Int × Int) × List Char) := do
  if cs.length < 4 then none
  let year ← Text.readInt? (cs.take 4)
  let separated := (cs.drop 4).head? == some '-'
  let rest := if separated then cs.drop 5 else cs.drop 4
  let parts (d : Date) : Int × Int × Int := (d.year, d.month, d.day)
  match rest with
  | 'W' :: rest =>
    let week ← Text.readInt? (rest.take 2)
    match rest.drop 2 with
    | [] => return (parts (← weekDate? year week 1), [])
    | c :: after =>
      if (c == '-') != separated then none
      let rest := if separated then after else c :: after
      let day ← Text.readInt? (rest.take 1)
      return (parts (← weekDate? year week day), rest.drop 1)
  | _ =>
    if rest.length < 3 then none
    let day ← Text.readInt? (rest.take 3)
    if day < 1 || (if isLeap (year.emod 400).toNat then 366 else 365) < day then none
    let first ← Date.ofParts? year 1 1
    return (parts (← Date.ofOrdinal? ((first.ordinal : Int) + (day - 1))), rest.drop 3)

/-- A zone: `Z`, or a sign with hours and perhaps minutes. -/
def zone? : List Char → Option Zone
  | ['Z'] => some .utc
  | ['z'] => some .utc
  | sign :: rest => do
    if !([2, 4, 5].contains rest.length) || !(sign == '+' || sign == '-') then none
    let hours ← Text.readInt? (rest.take 2)
    let minutes ← match rest.drop 2 with
      | [] => some 0
      | ':' :: minutes => Text.readInt? minutes
      | minutes => Text.readInt? minutes
    if hours = 0 && minutes = 0 then return .utc
    if 59 < minutes || 23 < hours then none
    return .fixed none ((if sign == '-' then -1 else 1) * (hours * 60 + minutes) * 60)
  | [] => none

/-- A time of day as it is written, before its range is known. -/
structure WrittenClock where
  hour : Int := 0
  minute : Int := 0
  second : Int := 0
  microsecond : Int := 0
  zone : Option Zone := none

/-- The fields of a time of day, in order. -/
inductive ClockField where
  | hour
  | minute
  | second
  | fraction
  | zone

/-- The first six digits of a fraction as microseconds, and what follows all
its digits. -/
def fraction? : List Char → Option (Nat × List Char)
  | mark :: rest =>
    let digits := rest.takeWhile Char.isDigit
    if (mark == '.' || mark == ',') && !digits.isEmpty then
      let six := digits.take 6
      some (Number.ofDigits 10 six * Nat.pow 10 (6 - six.length), rest.dropWhile Char.isDigit)
    else none
  | [] => none

/-- Reads the fields of a time of day one after the other. A zone may stand
in the place of any of them and ends the text. -/
def clockFields? (separated : Bool) (read : WrittenClock) :
    List ClockField → List Char → Option WrittenClock
  | _, [] => some read
  | [], _ :: _ => none
  | field :: fields, c :: rest =>
    if ['-', '+', 'Z', 'z'].contains c then
      (zone? (c :: rest)).map fun z => { read with zone := some z }
    else
      match field with
      | .hour => do
        let n ← Text.readInt? ((c :: rest).take 2)
        clockFields? separated { read with hour := n } fields ((c :: rest).drop 2)
      | .minute => do
        let separated := c == ':'
        let digits := if separated then rest else c :: rest
        let n ← Text.readInt? (digits.take 2)
        clockFields? separated { read with minute := n } fields (digits.drop 2)
      | .second => do
        if separated && c != ':' then none
        let digits := if separated then rest else c :: rest
        let n ← Text.readInt? (digits.take 2)
        clockFields? separated { read with second := n } fields (digits.drop 2)
      | .fraction =>
        match fraction? (c :: rest) with
        | some (n, after) => clockFields? separated { read with microsecond := n } fields after
        | none => clockFields? separated read fields (c :: rest)
      | .zone => clockFields? separated read fields (c :: rest)

/-- Reads a time of day. -/
def clock? (cs : List Char) : Option WrittenClock := do
  if cs.length < 2 then none
  let c ← clockFields? false {} [.hour, .minute, .second, .fraction, .zone] cs
  if c.hour = 24 && (c.minute != 0 || c.second != 0 || c.microsecond != 0) then none
  return c

/-- The time of day that is written, if a day has it. -/
def WrittenClock.valid? (c : WrittenClock) : Option Clock :=
  if 0 ≤ c.hour && 0 ≤ c.minute && 0 ≤ c.second && 0 ≤ c.microsecond then
    let clock : Clock := ⟨c.hour.toNat, c.minute.toNat, c.second.toNat, c.microsecond.toNat⟩
    if clock.isValid then some clock else none
  else none

/-- The moment that a text in the standard notation means. -/
def moment? (cs : List Char) : Option LocalMoment := do
  if cs.any (0x80 ≤ ·.toNat) then none
  let ((year, month, day), rest) ← (calendarDate? cs).orElse fun _ => otherDate? cs
  let written ← match rest with
    | [] => some {}
    | _ :: rest => clock? rest
  let endOfDay := written.hour == 24
  let date ← Date.ofParts? year month day
  let clock ← { written with hour := if endOfDay then 0 else written.hour }.valid?
  let date ← if endOfDay then Date.ofOrdinal? (date.ordinal + 1) else some date
  return ⟨date, clock, written.zone⟩

end Bibliography.Calendar.Iso
