import Bibliography.Yaml.Node
import Bibliography.Yaml.Scalar
/-!
# Values

What a document says: scalars, lists, and mappings whose keys are scalars.
A set is the list of its members, and a list of pairs a list of lists. Of
several faults in a document the one nearest to its root is reported.
-/

namespace Bibliography.Yaml

/-- A value. -/
inductive Value where
  | scalar (s : Scalar)
  | list (items : List Value)
  | map (entries : List (Scalar × Value))
  deriving Repr, Inhabited

/-- A fault and how far below the root it is. -/
structure Misplaced where
  depth : Nat
  fault : Fault

namespace Value

/-- Two results together: of two faults the one nearer to the root, and the
first of two equally near. -/
def both {α β γ : Type} (f : α → β → γ) : Except Misplaced α → Except Misplaced β →
    Except Misplaced γ
  | .ok a, .ok b => .ok (f a b)
  | .ok _, .error e => .error e
  | .error e, .ok _ => .error e
  | .error e, .error e' => .error (if e'.depth < e.depth then e' else e)

/-- Something malformed at a depth. -/
def refused {α : Type} (depth : Nat) : Except Misplaced α :=
  .error ⟨depth, .malformed⟩

/-- Puts a value under a key: in the place of the same key, which stays as it
is, or at the end. -/
def put (key : Scalar) (value : Value) : List (Scalar × Value) → List (Scalar × Value)
  | [] => [(key, value)]
  | (k, v) :: rest =>
    if k.isSameKey key then (k, value) :: rest else (k, v) :: put key value rest

/-- Entries as they come: a repeated key keeps its first place and its last
value. -/
def ofEntries (entries : List (Scalar × Value)) : List (Scalar × Value) :=
  entries.foldl (fun found (k, v) => put k v found) []

/-- How far below the root a tag that does not fit its node is complained of:
what a list or mapping is to hold is looked into with what stands below it. -/
def complaintDepth (depth : Nat) (tag : Tag) : Nat :=
  if tag.isOfCollections then depth + 1 else depth

mutual

/-- The text that a node gives under the tag of a scalar: a mapping gives that
of its own value. -/
def textOf? : Node → Option String
  | .scalar _ text => some text
  | .map _ entries => ownText? entries
  | _ => none

/-- The text of the first special key of a mapping. -/
def ownText? : List (Node × Node) → Option String
  | [] => none
  | (.scalar .value _, value) :: _ => textOf? value
  | _ :: rest => ownText? rest

end

/-- The value of a text under the tag of its node. -/
def ofScalar (depth : Nat) (tag : Tag) (text : String) : Except Misplaced Scalar :=
  (Scalar.ofText tag text).mapError (⟨complaintDepth depth tag, ·⟩)

/-- The value of a mapping under the tag of a scalar. -/
def ofOwnText (depth : Nat) (tag : Tag) (entries : List (Node × Node)) :
    Except Misplaced Scalar :=
  match ownText? entries with
  | some text => if tag = .timestamp then .error ⟨depth, .mappingAsDate⟩ else ofScalar depth tag text
  | none => refused (complaintDepth depth tag)

/-- The key that a node is, which has to be a scalar. -/
def keyOf (depth : Nat) : Node → Except Misplaced Scalar
  | .scalar tag text =>
    if tag.isOfCollections then refused depth else ofScalar depth tag text
  | .map tag entries => if tag.isOfCollections then refused depth else ofOwnText depth tag entries
  | _ => refused depth

mutual

/-- The value of a node at a depth. Lists and mappings are looked into only
when everything at their own depth has been found to be right. -/
def ofNode (depth : Nat) : Node → Except Misplaced Value
  | .scalar tag text => (ofScalar depth tag text).map .scalar
  | .seq tag items =>
    match tag with
    | .seq => (ofItems (depth + 1) items).map .list
    | .omap | .pairs => (ofPairs (depth + 1) items).map .list
    | _ => refused (complaintDepth depth tag)
  | .map tag entries =>
    match tag with
    | .map => (ofMembers (depth + 1) entries).map fun l => .map (ofEntries l)
    | .set =>
      (ofMembers (depth + 1) entries).map fun l =>
        .list ((ofEntries l).map fun (key, _) => .scalar key)
    | _ =>
      if tag.isOfCollections then refused (complaintDepth depth tag)
      else (ofOwnText depth tag entries).map .scalar
  | .enclosing _ isMap => .ok (if isMap then .map [] else .list [])

/-- The values of the items of a list. -/
def ofItems (depth : Nat) : List Node → Except Misplaced (List Value)
  | [] => .ok []
  | n :: rest => both List.cons (ofNode depth n) (ofItems depth rest)

/-- The values of a list of mappings with one entry each. -/
def ofPairs (depth : Nat) : List Node → Except Misplaced (List Value)
  | [] => .ok []
  | .map _ [(key, value)] :: rest =>
    both List.cons
      (both (fun k v => .list [k, v]) (ofNode depth key) (ofNode depth value))
      (ofPairs depth rest)
  | _ :: _ => refused depth

/-- Keys and values of the entries of a mapping. -/
def ofMembers (depth : Nat) : List (Node × Node) → Except Misplaced (List (Scalar × Value))
  | [] => .ok []
  | (key, value) :: rest =>
    both List.cons (both Prod.mk (keyOf depth key) (ofNode depth value)) (ofMembers depth rest)

end

mutual

/-- A value as a JSON value, with texts for keys. -/
def toJson : Value → Json
  | scalar s => s.toJson
  | list items => .arr (itemsJson items)
  | map entries => .obj (Json.Members.ofList (entriesJson entries))

/-- The items of a list as JSON values. -/
def itemsJson : List Value → List Json
  | [] => []
  | v :: rest => v.toJson :: itemsJson rest

/-- The entries of a mapping as members of an object. -/
def entriesJson : List (Scalar × Value) → List (String × Json)
  | [] => []
  | (key, v) :: rest => (key.keyText, v.toJson) :: entriesJson rest

end

end Value

end Bibliography.Yaml
