import Bibliography.Calendar.Timestamp
import Bibliography.Json.Display
import Bibliography.Record.Issued
/-!
# The dates that records are sorted by

When a record was created, last changed, and published.
-/

namespace Bibliography

open Calendar

/-- A date part that no calendar can hold. -/
inductive DatePartError where
  /-- It does not fit into 64 bits. -/
  | tooWide
  /-- It is too large for 32 bits. -/
  | tooLarge
  /-- It is too small for 32 bits. -/
  | tooSmall
  deriving DecidableEq, Repr

/-- What is reported. -/
def DatePartError.message : DatePartError → String
  | tooWide => "Python int too large to convert to C long"
  | tooLarge => "signed integer is greater than maximum"
  | tooSmall => "signed integer is less than minimum"

/-- Refuses a number that is far out of every calendar. -/
def checkDatePart (n : Int) : Except DatePartError Unit :=
  if n < -9223372036854775808 || 9223372036854775807 < n then .error .tooWide
  else if 2147483647 < n then .error .tooLarge
  else if n < -2147483648 then .error .tooSmall
  else .ok ()

/-- Why a date of publication cannot be told. -/
inductive PublishedError where
  | numeral (e : NumeralError)
  | part (e : DatePartError)
  deriving DecidableEq, Repr

namespace Record

/-- When the record was made. -/
def created [Reader] (r : Record) : Except Crash Moment :=
  Moment.ofTimestamp (r.custom? "created_at")

/-- When the record was last changed: when it was made, unless it says
otherwise. -/
def updated [Reader] (r : Record) : Except Crash Moment :=
  match r.custom? "timestamp" with
  | some value => if value.isTruthy then Moment.ofTimestamp (some value) else r.created
  | none => r.created

/-- The start of the day of publication, where missing parts count as one. A
date that the calendar does not have counts as the epoch. -/
def published (r : Record) : Except PublishedError Moment := do
  match ← r.dateParts.mapError .numeral with
  | [] => return .epoch
  | year :: rest =>
    let month := rest.head?.getD 1
    let day := (rest.drop 1).head?.getD 1
    for part in [year, month, day] do
      (checkDatePart part).mapError .part
    match Date.ofParts? year month day with
    | some date => return ⟨date, .midnight, .utc⟩
    | none => return .epoch

/-- The name that the record is sorted by: the family name of its first
author, or else the literal one. -/
def sortAuthor (r : Record) : String :=
  let names := match r.items "author" with
    | first :: _ => ["family", "literal"].filterMap fun key => (first.get? key).bind Json.str?
    | [] => []
  names.head?.getD "Anonymous"

/-- The identifier as plain text; empty if it is missing. -/
def idText (r : Record) : String :=
  ((r.get? "id").map Json.shown).getD ""

end Record

end Bibliography
