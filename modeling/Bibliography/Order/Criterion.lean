/-!
# What to sort by

The fields that a listing can be sorted by, their short names, and the two
directions.
-/

namespace Bibliography.Order

/-- A field that records have an order by. -/
inductive SortField where
  | created
  | updated
  | published
  | author
  | title
  deriving DecidableEq, Repr

/-- What a listing is sorted by: a field, or how well records match. -/
inductive Criterion where
  | field (f : SortField)
  | relevance
  deriving DecidableEq, Repr

/-- The direction of an order. -/
inductive Direction where
  | ascending
  | descending
  deriving DecidableEq, Repr

/-- A name that means nothing to sort by. -/
inductive NameError where
  | unknownField (name : String)
  | unknownOrder (name : String)
  deriving DecidableEq, Repr

/-- What is reported. -/
def NameError.message : NameError → String
  | unknownField name => "Unknown sort field: " ++ name
  | unknownOrder name => "Unknown sort order: " ++ name

namespace SortField

/-- The name of a field. -/
def name : SortField → String
  | created => "created"
  | updated => "updated"
  | published => "published"
  | author => "author"
  | title => "title"

/-- All fields. -/
def all : List SortField := [created, updated, published, author, title]

/-- The field of a name. -/
def ofName (name : String) : Except NameError SortField :=
  match all.find? (·.name == name) with
  | some f => .ok f
  | none => .error (.unknownField name)

end SortField

namespace Criterion

/-- The full name. -/
def name : Criterion → String
  | field f => f.name
  | relevance => "relevance"

/-- The short name, if there is one. -/
def alias? : Criterion → Option String
  | field .created => some "add"
  | field .updated => some "mod"
  | field .published => some "pub"
  | relevance => some "rel"
  | _ => none

/-- All criteria. -/
def all : List Criterion := SortField.all.map field ++ [relevance]

/-- The criterion of a full or short name. -/
def ofName (name : String) : Except NameError Criterion :=
  match all.find? fun c => c.name == name || c.alias? == some name with
  | some c => .ok c
  | none => .error (.unknownField name)

end Criterion

namespace Direction

/-- The name of a direction. -/
def name : Direction → String
  | ascending => "asc"
  | descending => "desc"

/-- Both directions. -/
def all : List Direction := [ascending, descending]

/-- The direction of a name. -/
def ofName (name : String) : Except NameError Direction :=
  match all.find? (·.name == name) with
  | some d => .ok d
  | none => .error (.unknownOrder name)

/-- A comparison taken in the direction: descending, what is greater comes
first. -/
def directed {κ : Type} (c : κ → κ → Ordering) : Direction → κ → κ → Ordering
  | ascending, a, b => c a b
  | descending, a, b => c b a

end Direction

end Bibliography.Order
