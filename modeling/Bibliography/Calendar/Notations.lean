import Bibliography.Calendar.FreeForm
import Bibliography.Calendar.Iso
/-!
# The notations as a reader

The reader that a program runs with.
-/

namespace Bibliography.Calendar

/-- Reads the standard notation, and the free form as it is understood on a
day. -/
@[reducible] def Reader.onDay (today : Date) : Reader where
  standard s := (Iso.moment? s.toList).getDM (throw .refused)
  free s := FreeForm.moment today s.toList

end Bibliography.Calendar
