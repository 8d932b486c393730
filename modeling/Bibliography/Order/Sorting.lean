import Bibliography.Order.Comparison
import Bibliography.Order.Criterion
import Bibliography.Record.Dates
import Bibliography.Text.Case
/-!
# Sorting by a field

Records are sorted by one field in either direction. Records that are equal
in it stand with the latest created first, then by identifier, and at last
in the order they came in.
-/

namespace Bibliography.Order

open Calendar

/-- Why records cannot be put in order. -/
inductive SortError where
  /-- Reading a timestamp has crashed. -/
  | timestamp (c : Crash)
  /-- Moments of different zones are to be compared, and one zone has no clock. -/
  | zoneWithoutClock
  | published (e : PublishedError)
  deriving DecidableEq, Repr

/-- What is reported. -/
def SortError.message : SortError → String
  | timestamp c => c.message
  | zoneWithoutClock =>
    "offset must be a timedelta strictly between -timedelta(hours=24) and timedelta(hours=24)."
  | published (.numeral e) => e.message
  | published (.part e) => e.message

/-- What one field of a record is compared by. -/
inductive Key where
  | moment (m : Moment)
  | text (s : String)

namespace Key

/-- The key of a record for a field. -/
def of [Reader] (field : SortField) (r : Record) : Except SortError Key :=
  match field with
  | .created => (r.created.mapError .timestamp).map .moment
  | .updated => (r.updated.mapError .timestamp).map .moment
  | .published => (r.published.mapError .published).map .moment
  | .author => .ok (.text (lowered r.sortAuthor))
  | .title => .ok (.text (lowered ((r.str? "title").getD "")))

/-- The moment of a key that is one. -/
def moment? : Key → Option Moment
  | moment m => some m
  | text _ => none

/-- Compares two keys of one field. -/
def compareTo : Key → Key → Ordering
  | moment a, moment b => compare a.instant b.instant
  | text a, text b => compare a b
  | moment _, text _ => .lt
  | text _, moment _ => .gt

end Key

/-- Refuses moments that cannot be compared. -/
def checkComparable (moments : List Moment) : Except SortError Unit :=
  if Moment.comparable moments then .ok () else .error .zoneWithoutClock

/-- Sorts once, by the keys of a field. Records with equal keys stay as they
stand. -/
def sortOnce [Reader] {α : Type} (record : α → Record) (field : SortField)
    (direction : Direction) (l : List α) : Except SortError (List α) := do
  let keyed ← l.mapM fun x => return (← Key.of field (record x), x)
  checkComparable (keyed.filterMap (·.1.moment?))
  return sortKeyed (direction.directed Key.compareTo) keyed

/-- Sorts by a field. What decides between equals is sorted by first, and the
field's own key last. -/
def sortByField [Reader] {α : Type} (record : α → Record) (field : SortField)
    (direction : Direction) (l : List α) : Except SortError (List α) := do
  let byId := sortKeyed compare (l.map fun x => ((record x).idText, x))
  let byCreation ← sortOnce record .created .descending byId
  sortOnce record field direction byCreation

end Bibliography.Order
