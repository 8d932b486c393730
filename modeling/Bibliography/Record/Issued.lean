import Bibliography.Record.Author
/-!
# The date of issue

The parts of the date of issue: year, month and day, as far as they are
known. A part is an integer or a text of digits.
-/

namespace Bibliography

/-- The number of a date part; nothing if it is none. -/
def Json.datePart? : Json → Except NumeralError (Option Int)
  | .int n => .ok (some n)
  | .str s =>
    let cs := Text.strip s.toList
    if Text.isDigitText cs then (Text.readDigitText cs).map fun n => some (n : Int)
    else .ok none
  | _ => .ok none

namespace Record

/-- The year that stands for an unknown one. -/
def missingYear : String := "0000"

/-- The parts of the first date of issue, as they stand in the record. -/
def rawDateParts (r : Record) : List Json :=
  match ((r.get? "issued").bind (Json.get? "date-parts")).bind Json.arr? with
  | some (.arr parts :: _) => parts
  | _ => []

/-- The numbers at the front of a list of date parts. -/
def leadingParts : List Json → Except NumeralError (List Int)
  | [] => .ok []
  | part :: rest => do
    match ← part.datePart? with
    | some n => return n :: (← leadingParts rest)
    | none => return []

/-- The parts of the date of issue, up to the first that is no number. -/
def dateParts (r : Record) : Except NumeralError (List Int) :=
  leadingParts r.rawDateParts

/-- The year of issue; zero if it is unknown. -/
def yearNumber (r : Record) : Except NumeralError Int :=
  match r.rawDateParts with
  | first :: _ => first.datePart?.map (·.getD 0)
  | [] => .ok 0

/-- The year of issue as text. -/
def year (r : Record) : Except NumeralError String :=
  r.yearNumber.bind fun n => if n = 0 then .ok missingYear else writeInt n

/-- The text of a field that can be looked up by name. The year and the
authors are derived; all others are as they stand. -/
def text? (r : Record) (field : String) : Except NumeralError (Option String) :=
  if field = "year" then r.year.map some
  else if field = "author" then .ok r.authorText
  else .ok (r.plainText? field)

end Record

end Bibliography
