import Bibliography.File.Path
import Bibliography.Json.Printer
import Bibliography.Library
import Bibliography.Output.Terminal
import Bibliography.Record.Dates
import Bibliography.View.Listing
/-!
# Writing pages

A writer takes pages in one of four formats. Listings and identifiers are
printed page by page; JSON is collected and written when the last page has
been taken, to the output or to a file.
-/

namespace Bibliography.Output

/-- How pages are written. -/
inductive Format where
  /-- As a listing to read. -/
  | pretty
  /-- As one JSON array. -/
  | json
  /-- One identifier to a line. -/
  | ids
  /-- One unique identifier to a line, of the records that have one. -/
  | uuid
  deriving DecidableEq, Repr

namespace Format

/-- The name of a format. -/
def name : Format → String
  | pretty => "pretty"
  | json => "json"
  | ids => "ids"
  | uuid => "uuid"

/-- All formats. -/
def all : List Format := [pretty, json, ids, uuid]

/-- The format of a name. -/
def ofName? (name : String) : Option Format :=
  all.find? (·.name == name)

/-- What is reported of an unknown name. -/
def unknownMessage (name : String) : String :=
  "Unknown output format: " ++ name

end Format

/-- A line of output. -/
def line (text : String) : String :=
  plain (text ++ "\n")

/-- What the listing says below the entries of a page. -/
def summary (page : SearchPage) : String :=
  let last := page.offset + page.items.length
  "Showing " ++ Number.intText (page.offset + 1) ++ "-" ++ Number.intText last ++ " of " ++
    Number.intText page.total ++
    (match page.nextOffset with
      | some next => " (next: --offset " ++ Number.intText next ++ ")"
      | none => "")

/-- What is said instead of an empty listing. -/
def emptyNotice (page : SearchPage) (query : String) : String :=
  if page.total != 0 then
    "No results at offset " ++ Number.intText page.offset ++ " of " ++ Number.intText page.total ++ "."
  else if !isBlankText query then "No references found for: " ++ query
  else "Library is empty."

/-- A page as a listing. -/
def listing (page : SearchPage) (query : String) : Except NumeralError String := do
  if page.items.isEmpty then return line (emptyNotice page query)
  let views ← View.ofPage page
  return plain (Listing.text views (page.offset + 1)) ++ line (summary page)

/-- The line for the identifier of a record. -/
def idLine (r : Record) : String :=
  match r.get? "id" with
  | some .null => line ""
  | some v => line v.shown
  | none => line ""

/-- The line for the unique identifier of a record, if it has one. -/
def uuidLine (r : Record) : String :=
  match View.present (r.customStr? "uuid") with
  | some s => line s
  | none => ""

/-- Takes pages in one format. -/
structure Writer where
  format : Format
  /-- Where JSON is saved; it is printed if this is empty. -/
  baseDir : String
  /-- The records that have been taken for JSON. -/
  collected : List Record

namespace Writer

/-- A writer that has taken nothing. -/
def start (format : Format) (baseDir : String) : Writer := ⟨format, baseDir, []⟩

/-- Takes a page that a query found: what is printed of it, and the writer
that has taken it. -/
def take (w : Writer) (page : SearchPage) (query : String) :
    Except NumeralError (String × Writer) :=
  let records := page.items.map (·.record)
  match w.format with
  | .pretty => (listing page query).map (·, w)
  | .ids => .ok (String.join (records.map idLine), w)
  | .uuid => .ok (String.join (records.map uuidLine), w)
  | .json => .ok ("", { w with collected := w.collected ++ records })

/-- What a writer does at the end. -/
inductive Ending where
  | print (text : String)
  /-- Saves a file in a directory. -/
  | save (directory : Path) (text : String)

/-- Ends the writing. -/
def finish (w : Writer) : Ending :=
  match w.format with
  | .json =>
    let text := (Library.toJson w.collected).pretty
    if w.baseDir.isEmpty then .print (line text)
    else .save ((Path.ofString w.baseDir).append "json") text
  | _ => .print ""

end Writer

end Bibliography.Output
