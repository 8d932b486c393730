import Bibliography.Calendar.FreeForm.Days
/-!
# Moments in free form

A date and a time of day as people write them: names of months and
weekdays, numbers in many arrangements, halves of the day, units and zones,
in nearly any order. A piece without a place in this is an error. Years of
two digits and dates with missing parts are understood as on a given day.
-/

namespace Bibliography.Calendar.FreeForm

/-- What has been read of a moment. -/
structure Reading where
  days : Days := {}
  weekday : Option Nat := none
  hour : Option Nat := none
  minute : Option Nat := none
  second : Option Nat := none
  microsecond : Option Nat := none
  zoneName : Option Piece := none
  zoneOffset : Option Int := none
  /-- Whether the next sign means its opposite, as after the name of a zone. -/
  isFlipped : Bool := false

/-- What has been read, and how many of the pieces that follow were used. -/
abbrev Step := Except ReadingFault (Reading × Nat)

/-- What has been found, or else the text is refused. -/
def orRefused {α : Type} (found : Option α) : Except ReadingFault α :=
  found.getDM (throw .refused)

/-- The hour of a half of the day. -/
def onTwelveHours (hour : Nat) (afternoon : Bool) : Nat :=
  if afternoon && hour < 12 then hour + 12
  else if !afternoon && hour = 12 then 0
  else hour

/-- The unit that belongs to a number, and how many of the pieces that follow
go with it: the unit after it, or the one below the unit before it. `none`
in the unit stands for one below seconds. -/
def unitOf? (before rest : List Piece) : Option (Option Piece.Unit × Nat) :=
  let below : Piece.Unit → Option Piece.Unit
    | .hour => some .minute
    | .minute => some .second
    | .second => none
  let next := rest.head?.bind Piece.unit?
  let nextButOne := if rest.head? == some [' '] then rest[1]?.bind Piece.unit? else none
  let previous := before.head?.bind Piece.unit?
  let previousButOne :=
    if rest.isEmpty && before.head? == some [' '] then before[1]?.bind Piece.unit? else none
  match next, nextButOne, previous, previousButOne with
  | some u, _, _, _ => some (some u, 1)
  | _, some u, _, _ => some (some u, 2)
  | _, _, some u, _ => some (below u, 0)
  | _, _, _, some u => some (below u, 0)
  | _, _, _, _ => none

/-- Sets the part of the time of day that a number with a unit gives. -/
def setUnit (r : Reading) (p : Piece) (x : Piece.Decimal) :
    Option Piece.Unit → Except ReadingFault Reading
  | some .hour => do
    let minute := (← x.sixtieths).or r.minute
    return { r with hour := some x.whole, minute }
  | some .minute => do
    let second ← x.sixtieths
    return { r with minute := some x.whole, second }
  | some .second => do
    let (second, microsecond) ← orRefused p.seconds?
    return { r with second := some second, microsecond := some microsecond }
  | none => return r

/-- Reads a time of day after its date, without separators: hours and minutes. -/
def shortClock? (r : Reading) (p : Piece) : Option Reading := do
  let hour ← Piece.nat? (p.take 2)
  if p.length = 4 then
    let minute ← Piece.nat? (p.drop 2)
    return { r with hour := some hour, minute := some minute }
  return { r with hour := some hour }

/-- Reads six digits without separators: a date, or else a time of day. -/
def sixDigits? (r : Reading) (p : Piece) : Option Reading := do
  if r.days.values.isEmpty && !p.contains '.' then
    let days ← r.days.addWritten? (p.take 2)
    let days ← days.addWritten? ((p.drop 2).take 2)
    let days ← days.addWritten? (p.drop 4)
    return { r with days }
  let hour ← Piece.nat? (p.take 2)
  let minute ← Piece.nat? ((p.drop 2).take 2)
  let (second, microsecond) ← Piece.seconds? (p.drop 4)
  return { r with
    hour := some hour, minute := some minute, second := some second, microsecond := some microsecond }

/-- Reads a date of eight digits, perhaps with a time of day after it. -/
def eightDigits? (r : Reading) (p : Piece) : Option Reading := do
  let year ← Piece.nat? (p.take 4)
  let days ← r.days.addYear? year
  let days ← days.addWritten? ((p.drop 4).take 2)
  let days ← days.addWritten? ((p.drop 6).take 2)
  let r := { r with days }
  if p.length = 8 then return r
  let hour ← Piece.nat? ((p.drop 8).take 2)
  let minute ← Piece.nat? ((p.drop 10).take 2)
  let r := { r with hour := some hour, minute := some minute }
  if p.length = 12 then return r
  let second ← Piece.nat? (p.drop 12)
  return { r with second := some second }

/-- Reads hours and minutes, and perhaps seconds, between colons. -/
def colonClock (r : Reading) (x : Piece.Decimal) (rest : List Piece) : Step := do
  let minutes ← orRefused (rest[1]?.bind Piece.decimal?)
  let second ← minutes.sixtieths
  let r := { r with hour := some x.whole, minute := some minutes.whole, second }
  match rest[2]?, rest[3]? with
  | some [':'], some seconds =>
    let (second, microsecond) ← orRefused seconds.seconds?
    return ({ r with second := some second, microsecond := some microsecond }, 4)
  | _, _ => return (r, 2)

/-- Adds a month by its name, or a number as it is written. -/
def addMonthOrNumber? (days : Days) (p : Piece) : Option Days :=
  match p.month? with
  | some m => days.addMonth? m
  | none => days.addWritten? p

/-- Reads a date with the given separator after its first number. -/
def separatedDate? (r : Reading) (p separator : Piece) (rest : List Piece) :
    Option (Reading × Nat) := do
  let days ← r.days.addWritten? p
  match rest[1]? with
  | none => return ({ r with days }, 1)
  | some second =>
    if second.isFiller then return ({ r with days }, 1)
    let days ← if second.all Text.isDigitLike then days.addWritten? second
      else second.month?.bind days.addMonth?
    if rest[2]? == some separator then
      let third ← rest[3]?
      let days ← addMonthOrNumber? days third
      return ({ r with days }, 4)
    return ({ r with days }, 2)

/-- Reads a number that belongs to the date. -/
def dateNumber? (r : Reading) (x : Piece.Decimal) : Option Reading :=
  (r.days.addNumber? x).map ({ r with days := · })

/-- Reads a number. -/
def number (before : List Piece) (p : Piece) (x : Piece.Decimal) (rest : List Piece) (r : Reading) :
    Step :=
  let size := p.length
  let next := rest.head?
  if r.days.values.length = 3 && (size = 2 || size = 4) && r.hour.isNone &&
      next != some [':'] && (next.bind Piece.unit?).isNone then
    orRefused ((shortClock? r p).map (·, 0))
  else if size = 6 || (6 < size && p.findIdx (· == '.') = 6) then
    orRefused ((sixDigits? r p).map (·, 0))
  else if size = 8 || size = 12 || size = 14 then orRefused ((eightDigits? r p).map (·, 0))
  else match unitOf? before rest with
  | some (unit, used) => (setUnit r p x unit).map (·, used)
  | none =>
    match next with
    | none => orRefused ((dateNumber? r x).map (·, 0))
    | some sep =>
      if sep == [':'] && 2 ≤ rest.length then colonClock r x rest
      else if sep == ['-'] || sep == ['/'] || sep == ['.'] then
        orRefused (separatedDate? r p sep rest)
      else if sep.isFiller then
        match rest[1]?.bind Piece.isAfternoon? with
        | some afternoon => .ok ({ r with hour := some (onTwelveHours x.whole afternoon) }, 2)
        | none => orRefused ((dateNumber? r x).map (·, 1))
      else match sep.isAfternoon? with
        | some afternoon =>
          if x.whole < 24 then .ok ({ r with hour := some (onTwelveHours x.whole afternoon) }, 1)
          else if r.days.canBeDay x then orRefused ((dateNumber? r x).map (·, 0))
          else .error .refused
        | none =>
          if r.days.canBeDay x then orRefused ((dateNumber? r x).map (·, 0)) else .error .refused

/-- The year that a number means in a given year: one of two digits is less
than fifty years ahead and no more than fifty back. -/
def fullYear (thisYear n : Nat) : Nat :=
  if n < 100 then
    let year := thisYear / 100 * 100 + n
    if thisYear + 50 ≤ year then year - 100 else if year + 50 < thisYear then year + 100 else year
  else n

/-- Reads the name of a month and what belongs to it: a day and perhaps a year
behind separators, or a year behind `of`. -/
def monthName? (thisYear : Nat) (r : Reading) (m : Nat) (rest : List Piece) :
    Option (Reading × Nat) := do
  let days ← r.days.addMonth? m
  match rest with
  | [] => return ({ r with days }, 0)
  | separator :: _ =>
    if separator == ['-'] || separator == ['/'] then
      let second ← rest[1]?
      let days ← days.addWritten? second
      if rest[2]? == some separator then
        let third ← rest[3]?
        let days ← days.addWritten? third
        return ({ r with days }, 4)
      return ({ r with days }, 2)
    match rest[1]?, rest[2]?, rest[3]? with
    | some word, some [' '], some year =>
      if separator == [' '] && word.isOf then
        if year.all Text.isDigitLike then
          let days ← days.addYear? (fullYear thisYear (← year.nat?))
          return ({ r with days }, 4)
        return ({ r with days }, 4)
      return ({ r with days }, 0)
    | _, _, _ => return ({ r with days }, 0)

/-- Whether a piece can be the name of the zone here. -/
def canBeZone (r : Reading) (offset : Option Int) (p : Piece) : Bool :=
  r.hour.isSome && r.zoneName.isNone && offset.isNone && p.isZoneName

/-- Reads the name of a zone. A sign after it tells how far universal time is
ahead, which is the opposite of an offset. -/
def zoneName (r : Reading) (p : Piece) (rest : List Piece) : Reading :=
  let r := { r with zoneName := some p, zoneOffset := if p == ['z'] then some 0 else none }
  match rest.head? with
  | some sign =>
    if sign == ['+'] || sign == ['-'] then
      { r with
        zoneName := if p.isUniversal then none else some p, zoneOffset := none, isFlipped := true }
    else r
  | none => r

/-- Reads the hours and minutes of an offset, and how many pieces they use
after the first. -/
def offsetParts? : List Piece → Option (Nat × Nat × Nat)
  | [] => none
  | first :: rest =>
    if first.length = 4 then do
      let hours ← Piece.nat? (first.take 2)
      let minutes ← Piece.nat? (first.drop 2)
      return (hours, minutes, 0)
    else if rest.head? == some [':'] then do
      let hours ← first.nat?
      let minutes ← rest[1]?.bind Piece.nat?
      return (hours, minutes, 2)
    else if first.length ≤ 2 then first.nat?.map (·, 0, 0)
    else none

/-- Reads an offset after its sign, and perhaps the name of the zone in
brackets after it. -/
def zoneOffset? (r : Reading) (isPlus : Bool) (rest : List Piece) : Option (Reading × Nat) := do
  let (hours, minutes, used) ← offsetParts? rest
  let seconds : Int := hours * 3600 + minutes * 60
  let r := { r with
    zoneOffset := some (if isPlus != r.isFlipped then seconds else -seconds), isFlipped := false }
  match rest[used + 1]?, rest[used + 2]?, rest[used + 3]?, rest[used + 4]? with
  | some gap, some ['('], some name, some [')'] =>
    if gap.isFiller && 3 ≤ name.length && canBeZone r none name then
      return ({ r with zoneName := some name }, used + 5)
    return (r, used + 1)
  | _, _, _, _ => return (r, used + 1)

/-- Reads one piece, given those before it, the nearest first, and those after
it. -/
def piece (thisYear : Nat) (before : List Piece) (p : Piece) (rest : List Piece) (r : Reading) :
    Step :=
  match p.decimal? with
  | some x => number before p x rest r
  | none =>
    if p.isNotFinite then .error .refused
    else match p.weekday? with
    | some weekday => .ok ({ r with weekday := some weekday }, 0)
    | none => match p.month? with
    | some m => orRefused (monthName? thisYear r m rest)
    | none => match p.isAfternoon? with
      | some afternoon =>
        match r.hour with
        | some hour =>
          if hour ≤ 12 then .ok ({ r with hour := some (onTwelveHours hour afternoon) }, 0)
          else .error .refused
        | none => .error .refused
      | none =>
        if canBeZone r r.zoneOffset p then .ok (zoneName r p rest, 0)
        else if r.hour.isSome && (p == ['+'] || p == ['-']) then
          orRefused (zoneOffset? r (p == ['+']) rest)
        else if p.isFiller then .ok (r, 0)
        else .error .refused

/-- Reads all pieces. -/
def pieces (thisYear : Nat) (before : List Piece) (r : Reading) :
    List Piece → Except ReadingFault Reading
  | [] => .ok r
  | p :: rest => do
    let (r, used) ← piece thisYear before p rest r
    pieces thisYear ((rest.take used).reverse ++ p :: before) r (rest.drop used)
termination_by pieces => pieces.length
decreasing_by
  simp only [List.length_drop, List.length_cons]
  omega

/-- Whether nothing has been read but fillers. -/
def Reading.isEmpty (r : Reading) : Bool :=
  r.days.values.isEmpty && r.weekday.isNone && r.hour.isNone && r.minute.isNone &&
    r.second.isNone && r.microsecond.isNone && r.zoneName.isNone && r.zoneOffset.isNone

/-- The largest offset, in days, that can be told apart from others. -/
def maxOffsetDays : Int := 999999999

/-- The zone that was read, if its offset is not too large. An unknown name
without an offset says nothing. -/
def zone? (r : Reading) : Option (Option Zone) :=
  let isUniversal := (r.zoneName.map Piece.isUniversal).getD false
  let offset := if isUniversal then some 0 else r.zoneOffset
  match offset with
  | some n =>
    if n = 0 then some (some .utc)
    else if maxOffsetDays < Int.fdiv n 86400 || Int.fdiv n 86400 < -maxOffsetDays then none
    else some (some (.fixed (r.zoneName.map String.ofList) n))
  | none => some none

/-- The day that the parts of a date mean. Parts that are missing are those of
the given day, or of the last one of the month if that has fewer; a weekday
without a day is the next one from there on. -/
def dayOf? (today : Date) (parts : Parts) (weekday : Option Nat) : Option Date := do
  let year := parts.year.getD today.year
  let month := parts.month.getD today.month
  let last := min today.day (monthLength year month)
  let date ← Date.ofParts? year month (parts.day.getD last)
  match parts.day, weekday with
  | none, some w => Date.ofOrdinal? (date.ordinal + (7 + w - date.weekday) % 7)
  | _, _ => some date

/-- The moment that a text in free form means on a day. -/
def moment (today : Date) (cs : List Char) : Except ReadingFault LocalMoment := do
  let r ← pieces today.year [] {} (Piece.cut cs)
  let parts ← orRefused r.days.resolve?
  if r.isEmpty then throw .refused
  let year := if r.days.hasCentury then parts.year else parts.year.map (fullYear today.year)
  let date ← orRefused (dayOf? today { parts with year } r.weekday)
  let clock : Clock :=
    ⟨r.hour.getD 0, r.minute.getD 0, r.second.getD 0, r.microsecond.getD 0⟩
  if !clock.isValid then throw .refused
  return ⟨date, clock, ← orRefused (zone? r)⟩

end Bibliography.Calendar.FreeForm
