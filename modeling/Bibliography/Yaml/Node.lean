import Bibliography.Yaml.Tag
/-!
# Nodes

A document is one node: a text with a tag, or a list or mapping of nodes. An
alias stands for a copy of its node. Inside that node itself there would be no
end to copies, so some levels down a mark is left in their place.
-/

namespace Bibliography.Yaml

/-- A node of a document. -/
inductive Node where
  | scalar (tag : Tag) (text : String)
  | seq (tag : Tag) (items : List Node)
  | map (tag : Tag) (entries : List (Node × Node))
  /-- An alias inside the node that it stands for, which is a mapping or not. -/
  | enclosing (anchor : String) (isMap : Bool)
  deriving Repr, Inhabited

namespace Node

/-- The node where nothing is written. -/
def empty : Node := scalar .null ""

mutual

/-- The node with another one in place of the marks of an anchor. -/
def replace (anchor : String) (copy : Node) : Node → Node
  | scalar tag text => scalar tag text
  | seq tag items => seq tag (replaceItems anchor copy items)
  | map tag entries => map tag (replaceEntries anchor copy entries)
  | enclosing name isMap => if name = anchor then copy else enclosing name isMap

/-- Replaces marks in the items of a list. -/
def replaceItems (anchor : String) (copy : Node) : List Node → List Node
  | [] => []
  | n :: rest => replace anchor copy n :: replaceItems anchor copy rest

/-- Replaces marks in the entries of a mapping. -/
def replaceEntries (anchor : String) (copy : Node) : List (Node × Node) → List (Node × Node)
  | [] => []
  | (key, value) :: rest =>
    (replace anchor copy key, replace anchor copy value) :: replaceEntries anchor copy rest

end

/-- The node with copies of itself, and copies in these, in place of the marks
of its anchor. Settings are looked for in a mapping in a mapping, and so stand
above all marks that are left. -/
def unfolded (anchor : String) (n : Node) : Node :=
  replace anchor (replace anchor n n) n

/-- The entries of a mapping whose keys are nodes, those that are taken over
from other mappings apart: a key for taking over has a mapping or a list of
mappings as its value. One with any other value stays as it is. -/
def splitEntries : List (Node × Node) → List (Node × Node) × List (Node × Node)
  | [] => ([], [])
  | (scalar .merge key, value) :: rest =>
    let (taken, own) := splitEntries rest
    match value with
    | map _ entries => (entries ++ taken, own)
    | enclosing _ true => (taken, own)
    | seq _ items =>
      match items.mapM fun | map _ entries => some entries | _ => none with
      | some lists => (lists.reverse.flatten ++ taken, own)
      | none => ((scalar .merge key, value) :: taken, own)
    | _ => ((scalar .merge key, value) :: taken, own)
  | (scalar .value key, value) :: rest =>
    let (taken, own) := splitEntries rest
    (taken, (scalar .str key, value) :: own)
  | entry :: rest =>
    let (taken, own) := splitEntries rest
    (taken, entry :: own)

/-- Whether an entry has the key for taking over, so that its value is none that
can be. -/
def isFailedMerge : Node × Node → Bool
  | (scalar .merge _, _) => true
  | _ => false

/-- Entries with those that are taken over in front, and before them those that
should have been and cannot be. -/
def takeOver (entries : List (Node × Node)) : List (Node × Node) :=
  let (taken, own) := splitEntries entries
  let (failed, taken) := taken.partition isFailedMerge
  failed ++ taken ++ own

mutual

/-- The node in which mappings and sets hold the entries that they take over
from other mappings. -/
def merged : Node → Node
  | scalar tag text => scalar tag text
  | seq tag items => seq tag (mergedItems items)
  | map tag entries =>
    let entries := mergedEntries entries
    map tag (if tag = .map || tag = .set then takeOver entries else entries)
  | enclosing anchor isMap => enclosing anchor isMap

/-- The items of a list, each merged. -/
def mergedItems : List Node → List Node
  | [] => []
  | n :: rest => n.merged :: mergedItems rest

/-- The entries of a mapping, each merged. -/
def mergedEntries : List (Node × Node) → List (Node × Node)
  | [] => []
  | (key, value) :: rest => (key.merged, value.merged) :: mergedEntries rest

end

end Node

end Bibliography.Yaml
