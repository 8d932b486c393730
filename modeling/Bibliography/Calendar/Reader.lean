import Bibliography.Calendar.Moment
import Bibliography.Crash
/-!
# Readers of moments

Texts are read as moments by a library of its own, in one standard notation
and in free form. Nothing is said here of either but how reading ends: with a
day and a time on some clock, with the text refused, or in a crash. What a text
means may depend on the day of the run, so a reader stands for both notations
on one day.
-/

namespace Bibliography.Calendar

/-- A day and a time on some clock, perhaps with the zone of the clock. -/
structure LocalMoment where
  date : Date
  clock : Clock
  zone : Option Zone := none
  deriving DecidableEq, Repr

/-- The moment. Without a zone it is in universal time. -/
def LocalMoment.moment (m : LocalMoment) : Moment :=
  ⟨m.date, m.clock, m.zone.getD .utc⟩

/-- Why a text is not read. -/
inductive ReadingFault where
  /-- The text is no moment, or the calendar does not have it. -/
  | refused
  | crashed (c : Crash)
  deriving DecidableEq, Repr

/-- What reads moments. -/
class Reader where
  /-- Reads a text in the standard notation. -/
  standard : String → Except ReadingFault LocalMoment
  /-- Reads a text in free form. -/
  free : String → Except ReadingFault LocalMoment

end Bibliography.Calendar
