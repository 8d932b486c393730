import Bibliography.File.Place
import Bibliography.Json.Reader
import Bibliography.Record.Basic
/-!
# Libraries

A library is an array of records, each with an identifier that is a text.
It is read from the bytes of a file; a library is either read as a whole or
refused.
-/

namespace Bibliography

/-- Why something is no library. -/
inductive LibraryError where
  /-- There is no such file. -/
  | notFound (path : String)
  /-- The file does not hold JSON. -/
  | notJson (path : String)
  /-- The value is no array. -/
  | rootNotArray (source : String)
  /-- An item is no object. -/
  | notObject (source : String) (index : Nat)
  /-- An item has no identifier that is a text. -/
  | idNotText (source : String) (index : Nat)
  deriving DecidableEq, Repr

/-- What is reported. -/
def LibraryError.message : LibraryError → String
  | notFound path => "Library file not found: " ++ path
  | notJson path => "Library file is not valid JSON: " ++ path
  | rootNotArray source => source ++ ": library root must be an array"
  | notObject source index =>
    source ++ ": item[" ++ Number.intText index ++ "] must be an object"
  | idNotText source index =>
    source ++ ": item[" ++ Number.intText index ++ "].id must be a string"

/-- Why a library cannot be loaded from a file. -/
inductive LoadError where
  | library (e : LibraryError)
  /-- The bytes are no text. -/
  | notText
  /-- An integer has too many digits to be read. -/
  | tooManyDigits (count : Nat)
  /-- Something keeps from looking at the file. -/
  | file (e : FileError)
  deriving DecidableEq, Repr

/-- What is reported. -/
def LoadError.message : LoadError → String
  | library e => e.message
  | notText => ReadError.notText.message
  | tooManyDigits count => (NumeralError.tooManyDigits count).message
  | file e => e.message

namespace Library

/-- The record that a value describes, as item number `index` of a source. -/
def record (source : String) (index : Nat) : Json → Except LibraryError Record
  | .obj members =>
    match (Json.Members.get? "id" members).bind Json.str? with
    | some _ => .ok ⟨members⟩
    | none => .error (.idNotText source index)
  | _ => .error (.notObject source index)

/-- The records that a value holds, under the name of the source it comes from. -/
def ofJson (source : String) : Json → Except LibraryError (List Record)
  | .arr items => items.zipIdx.mapM fun (item, index) => record source index item
  | _ => .error (.rootNotArray source)

/-- The records of a text. -/
def ofText (path text : String) : Except LoadError (List Record) :=
  match Json.parse text with
  | .ok value => (ofJson path value).mapError .library
  | .error .malformed => .error (.library (.notJson path))
  | .error (.tooManyDigits count) => .error (.tooManyDigits count)

/-- Loads the library at a path. -/
def load (path : String) (place : Place) : Except LoadError (List Record) :=
  match place.text with
  | .ok text => ofText path text
  | .error .notText => .error .notText
  | .error (.barred e) => .error (.file e)
  | .error _ => .error (.library (.notFound path))

/-- The records as a JSON value. -/
def toJson (records : List Record) : Json :=
  .arr (records.map fun r => .obj r.members)

end Library

end Bibliography
