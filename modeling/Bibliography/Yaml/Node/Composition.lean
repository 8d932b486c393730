import Bibliography.Yaml.Node
import Bibliography.Yaml.Tokens
/-!
# From tokens to a node

The tokens of a document are put together to its one node. Anchors name
nodes for the aliases behind them; a name is given only once. Where a node
may stand and nothing is written, there is an empty one.
-/

namespace Bibliography.Yaml

/-- What is known while a node is put together. -/
structure Composing where
  /-- The tokens that are left. -/
  tokens : List Token
  /-- What handles abbreviate. -/
  handles : List (String × String)
  /-- The nodes that have names; while one is put together, a mark stands for
  it. -/
  anchors : List (String × Node)

/-- Puts something together from tokens. -/
abbrev Compose := StateT Composing (Except Fault)

namespace Compose

/-- What handles abbreviate where nothing is said about them. -/
def standardHandles : List (String × String) := [("!", "!"), ("!!", Tag.nameSpace)]

/-! ## Tokens -/

/-- Gives up. -/
def fail {α : Type} : Compose α := throw .malformed

/-- The next token. -/
def peek : Compose (Option Token) := return (← get).tokens.head?

/-- Passes over the next token. -/
def skip : Compose Unit := modify fun s => { s with tokens := s.tokens.drop 1 }

/-- Whether one of the tokens comes next. -/
def isNext (ts : List Token) : Compose Bool := return (← peek).any ts.contains

/-- Passes over a token, if it comes next. -/
def accept (t : Token) : Compose Bool := do
  let found ← isNext [t]
  if found then skip
  return found

/-- Passes over a token, which has to come next. -/
def expect (t : Token) : Compose Unit := do
  if !(← accept t) then fail

/-! ## Names and tags -/

/-- The node that an alias stands for. -/
def aliased (name : String) : Compose Node := do
  match (← get).anchors.lookup name with
  | some n => return n
  | none => fail

/-- Names a node. -/
def bind (name : String) (n : Node) : Compose Unit :=
  modify fun s => { s with anchors := (name, n) :: s.anchors }

/-- The full name of a tag. -/
def fullName (t : TagName) : Compose String := do
  match t.handle with
  | none => return t.suffix
  | some handle =>
    match (← get).handles.lookup handle with
    | some meaning => return meaning ++ t.suffix
    | none => fail

/-- An anchor, if one comes next; its name has not been given before. -/
def anchor? : Compose (Option String) := do
  match ← peek with
  | some (.anchor name) =>
    skip
    if ((← get).anchors.lookup name).isSome then fail
    return some name
  | _ => return none

/-- The full name of a tag, if one comes next. -/
def tagName? : Compose (Option String) := do
  match ← peek with
  | some (.tag t) =>
    skip
    return some (← fullName t)
  | _ => return none

/-- An anchor and a tag in either order, both of which may be missing. -/
def properties : Compose (Option String × Option String) := do
  match ← anchor? with
  | some name => return (some name, ← tagName?)
  | none =>
    let tag ← tagName?
    if tag.isSome then return (← anchor?, tag)
    return (none, tag)

/-- The tag of a node: a lone exclamation mark leaves the choice to the
node. -/
def tagOr (name : Option String) (usual : Tag) : Tag :=
  match name with
  | none | some "!" => usual
  | some name => Tag.ofName name

/-- A text as a node. Without a tag, a text between marks is a string. -/
def textNode (tag : Option String) (text : String) (isPlain : Bool) : Node :=
  if tag.isNone && !isPlain then .scalar .str text
  else .scalar (tagOr tag (Tag.ofPlain text)) text

/-- Names a node that has been put together while a mark stood for it. -/
def close (name : String) (n : Node) : Compose Node := do
  let n := n.unfolded name
  modify fun s => { s with
    anchors := (name, n) :: s.anchors.map fun (other, inner) => (other, .replace name n inner) }
  return n

/-- A list or mapping that may be named and hold aliases for itself. -/
def collection (anchor : Option String) (isMap : Bool) (content : Compose Node) : Compose Node :=
  match anchor with
  | none => content
  | some name => do
    bind name (.enclosing name isMap)
    close name (← content)

/-- An empty node if one of the tokens comes next. -/
def unlessNext (ts : List Token) (n : Compose Node) : Compose Node := do
  if ← isNext ts then return .empty
  n

/-! ## Nodes -/

/-- Where a node stands. -/
inductive Position where
  /-- Between brackets. -/
  | flow
  /-- In a block. -/
  | block
  /-- As the key or value of a mapping in a block, where the entries of a list
  need no indentation. -/
  | blockEntry
  deriving DecidableEq, Repr

mutual

/-- A node. Every token allows for two steps. -/
def node (steps : Nat) (position : Position) : Compose Node :=
  match steps with
  | 0 => fail
  | steps + 1 => do
    if let some (.alias name) ← peek then
      skip
      return ← aliased name
    let (anchor, tag) ← properties
    match ← peek with
    | some (.scalar text isPlain) =>
      skip
      let n := textNode tag text isPlain
      anchor.forM (bind · n)
      return n
    | some .flowSequenceStart =>
      skip
      collection anchor false (return .seq (tagOr tag .seq) (← flowItems steps true))
    | some .flowMappingStart =>
      skip
      collection anchor true (return .map (tagOr tag .map) (← flowEntries steps true))
    | next =>
      if next = some .blockEntry && position = .blockEntry then
        collection anchor false (return .seq (tagOr tag .seq) (← flushItems steps))
      else if next = some .blockSequenceStart && position != .flow then
        skip
        collection anchor false (return .seq (tagOr tag .seq) (← blockItems steps))
      else if next = some .blockMappingStart && position != .flow then
        skip
        collection anchor true (return .map (tagOr tag .map) (← blockEntries steps))
      else if anchor.isSome || tag.isSome then
        let n := textNode tag "" true
        anchor.forM (bind · n)
        return n
      else fail

/-- The items of a list in a block of its own. -/
def blockItems (steps : Nat) : Compose (List Node) :=
  match steps with
  | 0 => fail
  | steps + 1 => do
    if ← accept .blockEntry then
      let n ← unlessNext [.blockEntry, .blockEnd] (node steps .block)
      return n :: (← blockItems steps)
    expect .blockEnd
    return []

/-- The items of a list that is not indented. -/
def flushItems (steps : Nat) : Compose (List Node) :=
  match steps with
  | 0 => fail
  | steps + 1 => do
    if ← accept .blockEntry then
      let n ← unlessNext [.blockEntry, .key, .value, .blockEnd] (node steps .block)
      return n :: (← flushItems steps)
    return []

/-- The entries of a mapping in a block. -/
def blockEntries (steps : Nat) : Compose (List (Node × Node)) :=
  match steps with
  | 0 => fail
  | steps + 1 => do
    if ← accept .key then
      let ends : List Token := [.key, .value, .blockEnd]
      let key ← unlessNext ends (node steps .blockEntry)
      let value ←
        if ← accept .value then unlessNext ends (node steps .blockEntry) else pure .empty
      return (key, value) :: (← blockEntries steps)
    expect .blockEnd
    return []

/-- The items of a list between brackets. A key and a value make an item of
their own. -/
def flowItems (steps : Nat) (isFirst : Bool) : Compose (List Node) :=
  match steps with
  | 0 => fail
  | steps + 1 => do
    if ← accept .flowSequenceEnd then return []
    if !isFirst then expect .flowEntry
    if ← accept .key then
      let key ← unlessNext [.value, .flowEntry, .flowSequenceEnd] (node steps .flow)
      let value ←
        if ← accept .value then unlessNext [.flowEntry, .flowSequenceEnd] (node steps .flow)
        else pure .empty
      return .map .map [(key, value)] :: (← flowItems steps false)
    if ← accept .flowSequenceEnd then return []
    let n ← node steps .flow
    return n :: (← flowItems steps false)

/-- The entries of a mapping between brackets. -/
def flowEntries (steps : Nat) (isFirst : Bool) : Compose (List (Node × Node)) :=
  match steps with
  | 0 => fail
  | steps + 1 => do
    if ← accept .flowMappingEnd then return []
    if !isFirst then expect .flowEntry
    if ← accept .key then
      let key ← unlessNext [.value, .flowEntry, .flowMappingEnd] (node steps .flow)
      let value ←
        if ← accept .value then unlessNext [.flowEntry, .flowMappingEnd] (node steps .flow)
        else pure .empty
      return (key, value) :: (← flowEntries steps false)
    if ← accept .flowMappingEnd then return []
    let key ← node steps .flow
    return (key, .empty) :: (← flowEntries steps false)

end

/-! ## Documents -/

/-- What directives say: the version, if one does, and what handles
abbreviate. -/
structure Directives where
  hasVersion : Bool
  handles : List (String × String)

/-- One more directive. The version is given once, as version 1, and a handle
is explained once. -/
def Directives.add (s : Directives) : Directive → Except Fault Directives
  | .version major =>
    if s.hasVersion || major != 1 then .error .malformed else .ok { s with hasVersion := true }
  | .tagHandle handle meaning =>
    if (s.handles.lookup handle).isSome then .error .malformed
    else .ok { s with handles := (handle, meaning) :: s.handles }
  | .other => .ok s

/-- The directives in front of a document. -/
def directives (ts : List Token) : List Directive × List Token :=
  match ts with
  | .directive d :: rest =>
    let (ds, rest) := directives rest
    (d :: ds, rest)
  | _ => ([], ts)

/-- The node of a document behind its directives and its mark. -/
def marked (steps : Nat) : Compose Node := do
  let (ds, rest) := directives (← get).tokens
  let found ← (ds.foldlM Directives.add ⟨false, []⟩ : Except Fault Directives)
  set (Composing.mk rest (found.handles ++ standardHandles) [])
  expect .documentStart
  match ← peek with
  | none | some (.directive _) | some .documentStart | some .documentEnd => return .empty
  | _ => node steps .block

/-- The node of the one document of the tokens. -/
def document (steps : Nat) : Compose Node := do
  let n ← match ← peek with
    | none => pure .empty
    | some (.directive _) | some .documentStart => marked steps
    | _ => node steps .block
  let rest := (← get).tokens.dropWhile (· == .documentEnd)
  if rest.isEmpty then return n else fail

end Compose

/-- The node that tokens describe. -/
def Node.ofTokens (ts : List Token) : Except Fault Node :=
  (·.1) <$> (Compose.document (2 * ts.length + 2)).run ⟨ts, Compose.standardHandles, []⟩

end Bibliography.Yaml
