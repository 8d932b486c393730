import Bibliography.Calendar.Date
import Bibliography.Number.Digits
/-!
# Moments

A moment is a day and a time of day on the clock of some zone. Moments are
compared as points in time. A zone may be written with an offset of a day
or more; such a zone has no clock, and its moments cannot be told apart
from those of any other zone.
-/

namespace Bibliography.Calendar

/-- A time of day. -/
structure Clock where
  hour : Nat
  minute : Nat
  second : Nat
  microsecond : Nat
  deriving DecidableEq, Repr

namespace Clock

def midnight : Clock := ⟨0, 0, 0, 0⟩

/-- Whether a day has the time. -/
def isValid (c : Clock) : Bool :=
  c.hour < 24 && c.minute < 60 && c.second < 60 && c.microsecond < 1000000

/-- Microseconds since midnight. -/
def microseconds (c : Clock) : Nat :=
  ((c.hour * 60 + c.minute) * 60 + c.second) * 1000000 + c.microsecond

end Clock

/-- A time zone: universal time, or a fixed offset in seconds, perhaps with a
name. -/
inductive Zone where
  | utc
  | fixed (name : Option String) (offset : Int)
  deriving DecidableEq, Repr

namespace Zone

/-- How far the zone's clock is ahead, in seconds. -/
def offset : Zone → Int
  | utc => 0
  | fixed _ seconds => seconds

/-- Whether the offset is less than a day. -/
def hasClock (z : Zone) : Bool :=
  z.offset.natAbs < 86400

end Zone

/-- A day and a time on the clock of a zone. -/
structure Moment where
  date : Date
  clock : Clock
  zone : Zone
  deriving DecidableEq, Repr

namespace Moment

/-- The moment that stands for an unknown one. -/
def epoch : Moment := ⟨⟨1970, 1, 1⟩, .midnight, .utc⟩

/-- The point in time, in microseconds of universal time. -/
def instant (m : Moment) : Int :=
  ((m.date.ordinal : Int) * 86400 - m.zone.offset) * 1000000 + m.clock.microseconds

/-- Whether all moments of a list can be compared: they are in one zone, or
all their zones have clocks. -/
def comparable (moments : List Moment) : Bool :=
  match moments with
  | [] => true
  | m :: rest => rest.all (·.zone == m.zone) || moments.all (·.zone.hasClock)

/-- The text of an offset: sign, hours and minutes. -/
def offsetText (offset : Int) : String :=
  let minutes := offset.natAbs / 60
  let seconds := offset.natAbs % 60
  (if offset < 0 then "-" else "+") ++ Number.padded 2 (minutes / 60) ++ ":" ++
    Number.padded 2 (minutes % 60) ++
    (if seconds = 0 then "" else ":" ++ Number.padded 2 seconds)

/-- The text of a moment, with a fraction only where there is one; nothing if
its zone has no clock. -/
def text? (m : Moment) : Option String :=
  if m.zone.hasClock then
    some (Number.padded 4 m.date.year ++ "-" ++ Number.padded 2 m.date.month ++ "-" ++
      Number.padded 2 m.date.day ++ "T" ++ Number.padded 2 m.clock.hour ++ ":" ++
      Number.padded 2 m.clock.minute ++ ":" ++ Number.padded 2 m.clock.second ++
      (if m.clock.microsecond = 0 then "" else "." ++ Number.padded 6 m.clock.microsecond) ++
      offsetText m.zone.offset)
  else none

end Moment

end Bibliography.Calendar
