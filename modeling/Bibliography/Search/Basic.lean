import Bibliography.Match.Hit
import Bibliography.Order.Relevance
import Bibliography.Order.Sorting
import Bibliography.Page
import Bibliography.Query.Tokenizer
/-!
# Searching a library

A search finds the records that match a query, puts them in order and shows
one page of them. A blank query finds every record and has no hits to rank,
so by relevance it leaves the records as they are. Where the records are
sorted by a field, their hits are put beside them again afterwards.
-/

namespace Bibliography

/-- What is searched for, and what is shown of it. -/
structure Request where
  query : String
  sort : String := "updated"
  order : String := "desc"
  /-- How many records to show; zero for all. -/
  limit : Int := 0
  /-- How many records to skip. -/
  offset : Int := 0
  deriving Repr

/-- Why a search fails. -/
inductive SearchError where
  | name (e : Order.NameError)
  /-- The limit or the offset is negative. -/
  | negative
  | numeral (e : NumeralError)
  | order (e : Order.SortError)
  deriving DecidableEq, Repr

/-- What is reported. -/
def SearchError.message : SearchError → String
  | name e => e.message
  | negative => "limit and offset must not be negative"
  | numeral e => e.message
  | order e => e.message

/-- The records that a library holds, each with its position. -/
def entries (library : List Record) : List Entry :=
  library.zipIdx.map fun (record, position) => ⟨position, record⟩

/-- What a query finds: every record, or the hits of its tokens. -/
inductive Findings where
  | all (es : List Entry)
  | hits (hs : List Match.Hit)

namespace Findings

/-- How many records were found. -/
def count : Findings → Nat
  | all es => es.length
  | hits hs => hs.length

/-- The records that were found. -/
def entries : Findings → List Entry
  | all es => es
  | hits hs => hs.map (·.entry)

/-- The hits that were found; none for a blank query. -/
def details : Findings → List Match.Hit
  | all _ => []
  | hits hs => hs

/-- What a query finds in a library. -/
def ofQuery (library : List Record) (query : String) : Except NumeralError Findings :=
  if isBlankText query then .ok (.all (Bibliography.entries library))
  else (Match.hits (Query.tokenize query) (Bibliography.entries library)).map .hits

/-- Puts hits in order of relevance, where descending is the most relevant
first. -/
def rank (direction : Order.Direction) (hits : List Match.Hit) :
    Except NumeralError (List Match.Hit) := do
  let ranked ← Order.sortByRelevance (·.strength) (·.entry.record) hits
  return match direction with
    | .ascending => ranked.reverse
    | .descending => ranked

/-- The hit of the record at a position. -/
def hitAt? (hits : List Match.Hit) (position : Nat) : Option Match.Hit :=
  hits.find? (·.entry.position == position)

end Findings

/-- What was found, in order. -/
structure Arrangement where
  entries : List Entry
  /-- The hits that the records come from, in the same order; none for a
  blank query. -/
  hits : List Match.Hit

/-- Puts what was found in order. -/
def Findings.arrange [Calendar.Reader] (criterion : Order.Criterion) (direction : Order.Direction)
    (found : Findings) : Except SearchError Arrangement :=
  match criterion, found with
  | .relevance, all es => .ok ⟨es, []⟩
  | .relevance, hits hs =>
    ((rank direction hs).mapError .numeral).map fun ranked => ⟨ranked.map (·.entry), ranked⟩
  | .field f, found => do
    let ordered ← (Order.sortByField (·.record) f direction found.entries).mapError .order
    return ⟨ordered, ordered.filterMap fun e => hitAt? found.details e.position⟩

/-- One page of what a search found. -/
structure SearchPage where
  /-- The records on the page. -/
  items : List Entry
  /-- How many records were found in all. -/
  total : Int
  limit : Int
  offset : Int
  /-- Where the next page starts, if there is one. -/
  nextOffset : Option Int
  /-- The hits that the records come from; none for a blank query. -/
  hits : List Match.Hit
  deriving Repr

namespace SearchPage

/-- The page of what was found, and as many of the hits from the same place
on. -/
def of (found : Arrangement) (limit offset : Int) : SearchPage :=
  let page := Page.of found.entries limit offset
  { items := page.items
    total := found.entries.length
    limit, offset
    nextOffset := page.nextOffset
    hits := Page.slice found.hits offset (offset + page.items.length) }

end SearchPage

/-- A request whose names and numbers have been checked. -/
structure Plan where
  query : String
  criterion : Order.Criterion
  direction : Order.Direction
  limit : Int
  offset : Int

/-- Checks the names and numbers of a request. -/
def Request.plan (r : Request) : Except SearchError Plan := do
  let criterion ← (Order.Criterion.ofName r.sort).mapError .name
  let direction ← (Order.Direction.ofName r.order).mapError .name
  if r.limit < 0 || r.offset < 0 then throw .negative
  return ⟨r.query, criterion, direction, r.limit, r.offset⟩

/-- What a plan finds in a library, in order. -/
def Plan.arrangement [Calendar.Reader] (plan : Plan) (library : List Record) :
    Except SearchError Arrangement := do
  let found ← (Findings.ofQuery library plan.query).mapError .numeral
  found.arrange plan.criterion plan.direction

/-- Searches a library. -/
def search [Calendar.Reader] (library : List Record) (request : Request) :
    Except SearchError SearchPage := do
  let plan ← request.plan
  let found ← plan.arrangement library
  return SearchPage.of found plan.limit plan.offset

end Bibliography
