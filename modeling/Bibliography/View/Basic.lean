import Bibliography.Search.Basic
/-!
# Views

A view holds what is shown of a record: its data, with what is missing or
empty left out, and the fields that matched.
-/

namespace Bibliography

/-- What is shown of a record. -/
structure View where
  id : String
  /-- Empty if it is missing. -/
  title : String
  authors : List String
  year : Option String
  containerTitle : Option String
  doi : Option String
  url : Option String
  uuid : Option String
  /-- The fields that matched. -/
  matchedFields : List String
  /-- For each token of the query its source and the fields it matched. -/
  tokenFields : List (String × List String)
  deriving DecidableEq, Repr

namespace View

/-- A text that is there and not empty. -/
def present (s : Option String) : Option String :=
  s.filter (!·.isEmpty)

/-- The view of a record. -/
def ofRecord (r : Record) (matchedFields : List String) : Except NumeralError View :=
  r.year.map fun year =>
    { id := (r.str? "id").getD ""
      title := (r.str? "title").getD ""
      authors := r.authorNames
      year := if year = Record.missingYear then none else some year
      containerTitle := present (r.str? "container-title")
      doi := present (r.str? "DOI")
      url := present (r.str? "URL")
      uuid := present (r.customStr? "uuid")
      matchedFields
      tokenFields := [] }

/-- The view of a hit, with the fields that each token matched. -/
def ofHit (h : Match.Hit) : Except NumeralError View :=
  (ofRecord h.entry.record h.fields).map fun view =>
    { view with
      tokenFields := h.tokens.map fun m =>
        (m.token.raw, Match.Hit.distinct (m.found.map (·.field))) }

/-- The views of a page: of its hits, if it has any. -/
def ofPage (page : SearchPage) : Except NumeralError (List View) :=
  if page.hits.isEmpty then page.items.mapM fun e => ofRecord e.record []
  else page.hits.mapM ofHit

end View

end Bibliography
