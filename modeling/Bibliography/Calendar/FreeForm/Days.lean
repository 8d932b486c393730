import Bibliography.Calendar.Date
import Bibliography.Calendar.FreeForm.Word
/-!
# Which number is the year, which the month, which the day

The numbers of a date are collected in the order of the text. Some are
known for what they are: a name is a month, and a number of more than two
digits is a year. The others are told apart by their sizes and places.
-/

namespace Bibliography.Calendar.FreeForm

/-- The numbers of a date so far, and the places of those that are known. -/
structure Days where
  values : List Nat := []
  yearAt : Option Nat := none
  monthAt : Option Nat := none
  /-- Whether a number was written with its century. -/
  hasCentury : Bool := false

/-- The parts of a date, as far as they are given. -/
structure Parts where
  year : Option Nat := none
  month : Option Nat := none
  day : Option Nat := none
  deriving DecidableEq

namespace Days

/-- Adds a number of unknown meaning. -/
def addPlain (d : Days) (n : Nat) : Days :=
  { d with values := d.values ++ [n] }

/-- Adds a year; there can be only one. -/
def addYear? (d : Days) (n : Nat) : Option Days :=
  if d.yearAt.isSome then none
  else some { d with values := d.values ++ [n], yearAt := some d.values.length, hasCentury := true }

/-- Adds a month by its number; there can be only one. -/
def addMonth? (d : Days) (n : Nat) : Option Days :=
  if d.monthAt.isSome then none
  else some { d with values := d.values ++ [n], monthAt := some d.values.length }

/-- Adds a number as it is written; with more than two digits it is a year. -/
def addWritten? (d : Days) (p : Piece) : Option Days := do
  let n ← p.nat?
  if 2 < p.length then d.addYear? n else some (d.addPlain n)

/-- Adds a number by its value; above a hundred it is a year. -/
def addNumber? (d : Days) (x : Piece.Decimal) : Option Days :=
  if x.atMost 100 then some (d.addPlain x.whole) else d.addYear? x.whole

/-- Whether a number can be the day, as far as month and year are known. -/
def canBeDay (d : Days) (x : Piece.Decimal) : Bool :=
  let last := match d.monthAt.bind (d.values[·]?) with
    | none => 31
    | some month => monthLength ((d.yearAt.bind (d.values[·]?)).getD 2000) month
  x.atLeast 1 && x.atMost last

/-- Year, month and day, as far as the numbers give them; there can be no more
than three. -/
def resolve? (d : Days) : Option Parts :=
  match d.values, d.yearAt, d.monthAt with
  | [], _, _ => some {}
  | [a], some _, _ => some { year := a }
  | [a], none, some _ => some { month := a }
  | [a], none, none => some (if 31 < a then { year := a } else { day := a })
  | [a, b], yearAt, some m =>
    let (month, other) := if m = 0 then (a, b) else (b, a)
    some (if yearAt.isSome || 31 < other then { year := other, month } else { month, day := other })
  | [a, b], _, none =>
    some (if 31 < a then { year := a, month := b } else if 31 < b then { month := a, year := b }
      else { month := a, day := b })
  | [a, b, c], some y, some m =>
    let at_ (i : Nat) := match i with | 0 => a | 1 => b | _ => c
    some ⟨at_ y, at_ m, at_ (3 - y - m)⟩
  | [a, b, c], none, some 0 => some (if 31 < b then ⟨b, a, c⟩ else ⟨c, a, b⟩)
  | [a, b, c], none, some 1 => some (if 31 < a then ⟨a, b, c⟩ else ⟨c, b, a⟩)
  | [a, b, c], none, some _ => some (if 31 < b then ⟨b, c, a⟩ else ⟨a, c, b⟩)
  | [a, b, c], yearAt, none =>
    some (if 31 < a || yearAt == some 0 then ⟨a, b, c⟩ else if 12 < a then ⟨c, b, a⟩
      else ⟨c, a, b⟩)
  | _, _, _ => none

end Days

end Bibliography.Calendar.FreeForm
