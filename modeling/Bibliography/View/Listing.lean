import Bibliography.View.Basic
/-!
# Listings

Views as text to read: a numbered entry for each, with a line for its
authors, its publication, its addresses and what matched, and an empty line
between entries.
-/

namespace Bibliography.Listing

/-- Up to three authors by name. -/
def authors (names : List String) : String :=
  if names.isEmpty then "-"
  else if 3 < names.length then ", ".intercalate (names.take 3) ++ ", et al."
  else ", ".intercalate names

/-- A line that is there only for a text that is not empty. -/
def optional (label : String) (text : Option String) : List String :=
  match View.present text with
  | some s => ["   " ++ label ++ ": " ++ s]
  | none => []

/-- Year and title of the journal or book. -/
def published (v : View) : String :=
  let year := (View.present v.year).getD "-"
  match View.present v.containerTitle with
  | some title => year ++ "  " ++ title
  | none => year

/-- The line about what matched: by token, or else the fields alone. -/
def matched (v : View) : List String :=
  if !v.tokenFields.isEmpty then
    ["   Matched: " ++ "; ".intercalate
      (v.tokenFields.map fun (raw, fields) => raw ++ " -> " ++ ", ".intercalate fields)]
  else if !v.matchedFields.isEmpty then ["   Matched: " ++ ", ".intercalate v.matchedFields]
  else []

/-- The lines of one entry. -/
def entryLines (number : Int) (v : View) : List String :=
  [Number.intText number ++ ". [" ++ v.id ++ "] " ++ (if v.title.isEmpty then "(untitled)" else v.title),
    "   Authors: " ++ authors v.authors,
    "   Published: " ++ published v] ++
    optional "DOI" v.doi ++ optional "URL" v.url ++ matched v

/-- The lines of the entries from number `start` on, with an empty line after
each. -/
def lines (start : Int) : List View → List String
  | [] => []
  | v :: rest => entryLines start v ++ [""] ++ lines (start + 1) rest

/-- The listing of views, numbered from `start` on; empty without views. -/
def text (views : List View) (start : Int) : String :=
  if views.isEmpty then ""
  else
    String.ofList (Text.stripEnd ("\n".intercalate (lines start views)).toList) ++ "\n"

end Bibliography.Listing
