import Bibliography.Json.Value
import Bibliography.Text.Numeral
/-!
# Records

A record describes one reference. It is an object whose members may have
any shape: what is missing or of the wrong type reads as absent.
-/

namespace Bibliography

/-- A bibliographic record. -/
structure Record where
  /-- All that the record says, in order. -/
  members : Json.Members
  deriving Repr, Inhabited

/-- A record and its position in the list it comes from. -/
structure Entry where
  position : Nat
  record : Record
  deriving Repr, Inhabited

namespace Record

/-- The value of a field. -/
def get? (r : Record) (field : String) : Option Json :=
  Json.Members.get? field r.members

/-- The text of a field that is a string. -/
def str? (r : Record) (field : String) : Option String :=
  (r.get? field).bind Json.str?

/-- The items of a field that is an array. -/
def items (r : Record) (field : String) : List Json :=
  ((r.get? field).bind Json.arr?).getD []

/-- The library's own extensions, which stand together in one object. -/
def custom (r : Record) : Json.Members :=
  ((r.get? "custom").bind Json.obj?).getD []

/-- The value of an extension. -/
def custom? (r : Record) (name : String) : Option Json :=
  Json.Members.get? name r.custom

/-- The text of an extension that is a string. -/
def customStr? (r : Record) (name : String) : Option String :=
  (r.custom? name).bind Json.str?

/-! ## Fields by name -/

/-- The name of the extension that a dotted field name means. -/
def customName? (field : String) : Option String :=
  if "custom.".toList.isPrefixOf field.toList then some (String.ofList (field.toList.drop 7))
  else none

/-- The strings among the items of a field or, by a dotted name, of an
extension. -/
def strings (r : Record) (field : String) : List String :=
  let value := match customName? field with
    | some name => r.custom? name
    | none => r.get? field
  ((value.bind Json.arr?).getD []).filterMap Json.str?

/-- The text of a field that is a string or, by a dotted name, of an
extension. -/
def plainText? (r : Record) (field : String) : Option String :=
  match r.str? field with
  | some s => some s
  | none => (customName? field).bind r.customStr?

end Record

end Bibliography
