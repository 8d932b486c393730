/-!
# Query tokens

A query is a list of tokens that must all match. A token looks for a value
in one field or in all of them.
-/

namespace Bibliography.Query

/-- The fields that a query can name. -/
inductive Field where
  | author
  | title
  | year
  | doi
  | pmid
  | pmcid
  | url
  | keyword
  | tag
  deriving DecidableEq, Repr

namespace Field

/-- The name that stands before the colon. -/
def name : Field → String
  | author => "author"
  | title => "title"
  | year => "year"
  | doi => "doi"
  | pmid => "pmid"
  | pmcid => "pmcid"
  | url => "url"
  | keyword => "keyword"
  | tag => "tag"

/-- All the fields. -/
def all : List Field :=
  [author, title, year, doi, pmid, pmcid, url, keyword, tag]

/-- The field of a name, which must be spelled exactly. -/
def ofName? (name : String) : Option Field :=
  all.find? (·.name == name)

/-- Exactly the name of a field stands for it. -/
theorem ofName?_eq_some_iff {name : String} {f : Field} : ofName? name = some f ↔ f.name = name := by
  constructor
  · intro h
    simpa using List.find?_some h
  · rintro rfl
    cases f <;> decide

end Field

/-- One element of a query. -/
structure Token where
  /-- The part of the query that it was read from. -/
  raw : String
  /-- The text to look for. -/
  value : String
  /-- The field to look in; all of them if there is none. -/
  field : Option Field
  /-- Whether the value was written in quotes. -/
  isPhrase : Bool
  deriving DecidableEq, Repr

end Bibliography.Query
