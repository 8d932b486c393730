import Bibliography.Match.Strength
import Bibliography.Query.Token
import Bibliography.Record.Issued
import Bibliography.Text.Acronym
import Bibliography.Text.SearchForm
/-!
# The rules for matching a value with a record

There is one rule to a kind of field:

- an identifier matches when it is the value as a whole, in any case;
- the address matches as it stands, and so do additional addresses;
- the year matches when it is the value as text;
- of keywords and tags the first that contains the value matches;
- any other text matches when it contains the value.

Containment is judged on the search forms, with regard to acronyms.
-/

namespace Bibliography.Match

/-- A field of a record that a value was found in. -/
structure Found where
  /-- The name of the field. -/
  field : String
  strength : Strength
  /-- The text that matches; of a list, the element. -/
  text : String
  deriving DecidableEq, Repr

/-- Whether a text contains a value, with regard to acronyms. -/
def contains (value text : String) : Bool :=
  Text.isFoundIn (Text.searchForm value.toList) (Text.searchForm text.toList)

/-- Whether two identifiers are the same in any case. -/
def sameIdentifier (a b : String) : Bool :=
  Text.upper a.toList == Text.upper b.toList

/-- Which part of a record a rule looks at. -/
inductive Rule where
  | year
  | url
  | keyword
  | tag
  | id
  | title
  | author
  | containerTitle
  | publisher
  | doi
  | pmid
  | pmcid
  | abstract
  deriving DecidableEq, Repr

namespace Rule

/-- The rule of a field that a query names. -/
def ofField : Query.Field → Rule
  | .author => author
  | .title => title
  | .year => year
  | .doi => doi
  | .pmid => pmid
  | .pmcid => pmcid
  | .url => url
  | .keyword => keyword
  | .tag => tag

/-- All rules, in the order that their matches are listed in. -/
def all : List Rule :=
  [year, url, keyword, tag, id, title, author, containerTitle, publisher, doi, pmid, pmcid, abstract]

/-- A field whose whole text is an identifier. -/
def findIdentifier (field : String) (value : String) (r : Record) : Option Found :=
  (r.str? field).bind fun text =>
    if sameIdentifier text value then some ⟨field, .exact, text⟩ else none

/-- A text that contains the value. -/
def findText (field : String) (value : String) (text : Option String) : Option Found :=
  text.bind fun text =>
    if contains value text then some ⟨field, .inPart, text⟩ else none

/-- The first element that contains the value. -/
def findElement (field : String) (value : String) (elements : List String) : Option Found :=
  (elements.find? (contains value)).map fun text => ⟨field, .inPart, text⟩

/-- The address that is the value, or else an additional one. -/
def findAddress (value : String) (r : Record) : Option Found :=
  if r.str? "URL" = some value then some ⟨"URL", .exact, value⟩
  else if (r.strings "custom.additional_urls").contains value then
    some ⟨"custom.additional_urls", .exact, value⟩
  else none

/-- What the rule finds of a value in a record. -/
def find (value : String) (r : Record) : Rule → Except NumeralError (Option Found)
  | year => r.year.map fun y => if y = value then some ⟨"year", .exact, y⟩ else none
  | url => .ok (findAddress value r)
  | keyword => .ok (findElement "keyword" value (r.strings "keyword"))
  | tag => .ok (findElement "tag" value (r.strings "custom.tags"))
  | id => .ok (findIdentifier "id" value r)
  | title => .ok (findText "title" value (r.str? "title"))
  | author => .ok (findText "author" value r.authorText)
  | containerTitle => .ok (findText "container-title" value (r.str? "container-title"))
  | publisher => .ok (findText "publisher" value (r.str? "publisher"))
  | doi => .ok (findIdentifier "DOI" value r)
  | pmid => .ok (findIdentifier "PMID" value r)
  | pmcid => .ok (findIdentifier "PMCID" value r)
  | abstract => .ok (findText "abstract" value (r.str? "abstract"))

end Rule

end Bibliography.Match
