import Bibliography.Record.Basic
/-!
# Authors

The names of a record's authors, as they are shown and searched. A name is
the family name and the given name; without a family name it is the
literal name or else the given name.
-/

namespace Bibliography

namespace Author

/-- A part of a name, empty if it is missing. -/
def part (name : Json) (key : String) : String :=
  ((name.get? key).bind Json.str?).getD ""

/-- The name of one author; empty if there is none. -/
def name (author : Json) : String :=
  let family := part author "family"
  let given := part author "given"
  let literal := part author "literal"
  if family.isEmpty then (if literal.isEmpty then given else literal)
  else if given.isEmpty then family
  else family ++ " " ++ given

end Author

namespace Record

/-- The names of the authors that have one, in order. -/
def authorNames (r : Record) : List String :=
  ((r.items "author").map Author.name).filter (!·.isEmpty)

/-- All names in one text. -/
def authorText (r : Record) : String :=
  " ".intercalate r.authorNames

/-- The family name of the first author; empty if it is missing. -/
def firstFamily (r : Record) : String :=
  match r.items "author" with
  | first :: _ => Author.part first "family"
  | [] => ""

end Record

end Bibliography
