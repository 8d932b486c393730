/-!
# Dates

Days of the Gregorian calendar, extended backwards, from the first of
January of year 1 to the end of year 9999. The *ordinal* of a day counts
from that first day on, which has ordinal 1.
-/

namespace Bibliography.Calendar

/-- Whether the year has a leap day. -/
def isLeap (year : Nat) : Bool :=
  year % 4 == 0 && (year % 100 != 0 || year % 400 == 0)

/-- The lengths of the months of a year. -/
def monthLengths (year : Nat) : List Nat :=
  [31, if isLeap year then 29 else 28, 31, 30, 31, 30, 31, 31, 30, 31, 30, 31]

/-- The length of a month; zero if there is no such month. -/
def monthLength (year month : Nat) : Nat :=
  if month = 0 then 0 else ((monthLengths year)[month - 1]?).getD 0

/-- A day of the calendar. -/
structure Date where
  year : Nat
  month : Nat
  day : Nat
  deriving DecidableEq, Repr

namespace Date

/-- Whether the calendar has the day. -/
def isValid (d : Date) : Bool :=
  1 ≤ d.year && d.year ≤ 9999 && 1 ≤ d.month && d.month ≤ 12 && 1 ≤ d.day &&
    d.day ≤ monthLength d.year d.month

/-- The day of the given year, month and day, if the calendar has it. -/
def ofParts? (year month day : Int) : Option Date :=
  if 0 ≤ year && 0 ≤ month && 0 ≤ day then
    let d : Date := ⟨year.toNat, month.toNat, day.toNat⟩
    if d.isValid then some d else none
  else none

/-- How many days come before a year. -/
def daysBeforeYear (year : Nat) : Nat :=
  let y := year - 1
  y * 365 + y / 4 - y / 100 + y / 400

/-- The place of the day in the calendar. -/
def ordinal (d : Date) : Nat :=
  daysBeforeYear d.year + ((monthLengths d.year).take (d.month - 1)).foldl (· + ·) 0 + d.day

/-- Month and day of the `n`-th day after the start of the first month listed. -/
def monthAndDay (n : Nat) : (lengths : List Nat) → (month : Nat) → Nat × Nat
  | [], month => (month, n + 1)
  | length :: rest, month =>
    if n < length then (month, n + 1) else monthAndDay (n - length) rest (month + 1)

/-- The day with the given ordinal, if the calendar has it. -/
def ofOrdinal? (ordinal : Int) : Option Date :=
  if ordinal < 1 || 3652059 < ordinal then none
  else
    let n := ordinal.toNat - 1
    let centuries := min (n % 146097 / 36524) 3
    let inCentury := n % 146097 - centuries * 36524
    let inCycle := inCentury % 1461
    let years := min (inCycle / 365) 3
    let year := n / 146097 * 400 + centuries * 100 + inCentury / 1461 * 4 + years + 1
    let (month, day) := monthAndDay (inCycle - years * 365) (monthLengths year) 1
    some ⟨year, month, day⟩

/-- The day of the week, from 1 for Monday to 7 for Sunday. -/
def weekday (d : Date) : Nat :=
  (d.ordinal + 6) % 7 + 1

end Date

end Bibliography.Calendar
