import Bibliography.Calendar.Reader
import Bibliography.Json.Value
import Bibliography.Text.Blank
/-!
# Timestamps

The moment that a value of a record means: a text in the standard notation
or else in free form. Whatever is refused in both counts as the epoch.
-/

namespace Bibliography.Calendar

variable [Reader]

/-- The moment of a text: what the standard notation refuses is read in free
form. -/
def Moment.ofText (s : String) : Except Crash Moment :=
  match Reader.standard s with
  | .ok m => .ok m.moment
  | .error (.crashed c) => .error c
  | .error .refused =>
    match Reader.free s with
    | .ok m => .ok m.moment
    | .error (.crashed c) => .error c
    | .error .refused => .ok .epoch

/-- The moment of a timestamp. -/
def Moment.ofTimestamp : Option Json → Except Crash Moment
  | some (.str s) => if isBlankText s then .ok .epoch else Moment.ofText s
  | _ => .ok .epoch

end Bibliography.Calendar
