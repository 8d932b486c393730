import Bibliography.Yaml.Cursor
import Bibliography.Yaml.Name
import Bibliography.Yaml.Text.Block
import Bibliography.Yaml.Text.Plain
import Bibliography.Yaml.Text.Quoted
/-!
# From text to tokens

Outside the flow notation indentation opens and closes blocks, and a node is
known to be a key only when a colon follows it. So the place of every node
that may be a key is kept until the colon comes, the line ends, or the text
goes on for too long; the marks of the key are then put in at that place.
-/

namespace Bibliography.Yaml

/-- A node that may turn out to be a key. -/
structure PossibleKey where
  /-- How many tokens come before it. -/
  position : Nat
  /-- Whether it has to be a key where it stands. -/
  isRequired : Bool
  index : Nat
  line : Nat
  column : Nat

/-- How far the reading of tokens has got. -/
structure Reading where
  place : Cursor
  /-- How many brackets of the flow notation are open. -/
  flow : Nat
  /-- The column of the innermost block; −1 outside all blocks. -/
  indent : Int
  /-- The columns of the blocks around it. -/
  outer : List Int
  /-- Whether a key may start here. -/
  keyAllowed : Bool
  /-- For open brackets and outside them, the node that may be a key. -/
  keys : List (Nat × PossibleKey)
  /-- The tokens that have been read, the last one first. -/
  reversed : List Token

namespace Reading

/-- Nothing has been read yet. -/
def start (cs : List Char) : Reading :=
  { place := .start cs, flow := 0, indent := -1, outer := [], keyAllowed := true, keys := [],
    reversed := [] }

/-- One more token. -/
def emit (t : Token) (r : Reading) : Reading :=
  { r with reversed := t :: r.reversed }

/-- The same with the text read up to `rest`. -/
def upTo (rest : List Char) (r : Reading) : Reading :=
  { r with place := r.place.upTo rest }

/-- A token put in behind the first `position` ones. -/
def insert (position : Nat) (t : Token) (r : Reading) : Reading :=
  { r with reversed := r.reversed.insertIdx (r.reversed.length - position) t }

/-! ## Possible keys -/

/-- How far behind its start a key is still a key. -/
def longestKey : Nat := 1024

/-- Whether a node can no longer be a key. -/
def isStale (r : Reading) (k : PossibleKey) : Bool :=
  k.line != r.place.line || k.index + longestKey < r.place.index

/-- Gives up the nodes that can no longer be keys, none of which may have to
be one. -/
def dropStaleKeys (r : Reading) : Except Fault Reading :=
  if r.keys.any fun (_, k) => r.isStale k && k.isRequired then .error .malformed
  else .ok { r with keys := r.keys.filter fun (_, k) => !r.isStale k }

/-- The node of the current brackets that may be a key. -/
def key? (r : Reading) : Option PossibleKey := r.keys.lookup r.flow

/-- Forgets the node of the current brackets. -/
def withoutKey (r : Reading) : Reading :=
  { r with keys := r.keys.filter fun (level, _) => level != r.flow }

/-- Gives up the node of the current brackets, which may not have to be a
key. -/
def dropKey (r : Reading) : Except Fault Reading :=
  if r.key?.any (·.isRequired) then .error .malformed else .ok r.withoutKey

/-- Notes that the node that starts here may be a key. It has to be one where
a block of mappings goes on. -/
def noteKey (r : Reading) : Except Fault Reading :=
  if r.keyAllowed then do
    let isRequired := r.flow = 0 && r.indent == (r.place.column : Int)
    let k : PossibleKey :=
      ⟨r.reversed.length, isRequired, r.place.index, r.place.line, r.place.column⟩
    let r ← r.dropKey
    return { r with keys := (r.flow, k) :: r.keys }
  else .ok r

/-! ## Blocks -/

/-- Closes the blocks that are indented further than a column: the column of
the innermost block that is left, the columns around it, and how many were
closed. -/
def closeBlocks (column : Int) : Int → List Int → Int × List Int × Nat
  | indent, [] => (indent, [], 0)
  | indent, next :: outer =>
    if column < indent then
      let (indent, outer, closed) := closeBlocks column next outer
      (indent, outer, closed + 1)
    else (indent, next :: outer, 0)

/-- Closes blocks down to a column; brackets keep them open. -/
def unindent (column : Int) (r : Reading) : Reading :=
  if r.flow != 0 then r
  else
    let (indent, outer, closed) := closeBlocks column r.indent r.outer
    { r with indent, outer, reversed := List.replicate closed .blockEnd ++ r.reversed }

/-- Opens a block in a column that is indented further than the innermost one,
and puts its mark behind the first `position` tokens. -/
def openBlock (column position : Nat) (mark : Token) (r : Reading) : Reading :=
  if r.flow = 0 && r.indent < (column : Int) then
    { r.insert position mark with indent := column, outer := r.indent :: r.outer }
  else r

/-! ## Single tokens -/

/-- The text after blanks between tokens and comments, and whether a line has
ended there. -/
def skipBlanks (inComment crossed : Bool) : List Char → List Char × Bool
  | [] => ([], crossed)
  | c :: rest =>
    if isBreak c then skipBlanks false true rest
    else if inComment || c = '#' then skipBlanks true crossed rest
    else if c = ' ' then skipBlanks false crossed rest
    else (c :: rest, crossed)

/-- Goes on to the next token. A byte order mark may start the text. -/
def toNext (r : Reading) : Reading :=
  let cs := match r.place.rest with
    | '\uFEFF' :: rest => if r.place.index = 0 then rest else r.place.rest
    | cs => cs
  let (rest, crossed) := skipBlanks false false cs
  { r.upTo rest with keyAllowed := r.keyAllowed || (crossed && r.flow = 0) }

/-- A token outside all blocks: a directive or the mark of a document. -/
def readOutside (t : Token) (rest : List Char) (r : Reading) : Except Fault Reading := do
  let r ← (r.unindent (-1)).dropKey
  return { (r.emit t).upTo rest with keyAllowed := false }

/-- An opening bracket. -/
def readOpening (t : Token) (rest : List Char) (r : Reading) : Except Fault Reading := do
  let r ← r.noteKey
  return { (r.emit t).upTo rest with flow := r.flow + 1, keyAllowed := true }

/-- A closing bracket, for which another one is open. -/
def readClosing (t : Token) (rest : List Char) (r : Reading) : Except Fault Reading := do
  if r.flow = 0 then throw .malformed
  let r ← r.dropKey
  return { (r.emit t).upTo rest with flow := r.flow - 1, keyAllowed := false }

/-- A comma between brackets. -/
def readComma (rest : List Char) (r : Reading) : Except Fault Reading := do
  let r ← r.dropKey
  return { (r.emit .flowEntry).upTo rest with keyAllowed := true }

/-- A dash, which opens a block of entries if it is indented further. -/
def readDash (rest : List Char) (r : Reading) : Except Fault Reading := do
  if r.flow = 0 && !r.keyAllowed then throw .malformed
  let r := r.openBlock r.place.column r.reversed.length .blockSequenceStart
  let r ← r.dropKey
  return { (r.emit .blockEntry).upTo rest with keyAllowed := true }

/-- A question mark before a key, which opens a block of mappings if it is
indented further. -/
def readQuestion (rest : List Char) (r : Reading) : Except Fault Reading := do
  if r.flow = 0 && !r.keyAllowed then throw .malformed
  let r := r.openBlock r.place.column r.reversed.length .blockMappingStart
  let r ← r.dropKey
  return { (r.emit .key).upTo rest with keyAllowed := r.flow = 0 }

/-- A colon. The node before it becomes a key, and a block of mappings opens at
that node if it is indented further; with no such node the key is empty. -/
def readColon (rest : List Char) (r : Reading) : Except Fault Reading :=
  match r.key? with
  | some k =>
    let r := (r.withoutKey.insert k.position .key).openBlock k.column k.position .blockMappingStart
    .ok { (r.emit .value).upTo rest with keyAllowed := false }
  | none => do
    if r.flow = 0 && !r.keyAllowed then throw .malformed
    let r := r.openBlock r.place.column r.reversed.length .blockMappingStart
    let r ← r.dropKey
    return { (r.emit .value).upTo rest with keyAllowed := r.flow = 0 }

/-- A token that may start a key, read behind the sign that announces it. -/
def readNode {α : Type} (read : List Char → Except Fault (α × List Char)) (token : α → Token)
    (cs : List Char) (r : Reading) : Except Fault Reading := do
  let r ← r.noteKey
  let (a, rest) ← read cs
  return { (r.emit (token a)).upTo rest with keyAllowed := false }

/-- A text between quotes. -/
def readQuoted (read : List Char → Except Fault (List Char × List Char)) (cs : List Char)
    (r : Reading) : Except Fault Reading :=
  r.readNode read (fun text => .scalar (String.ofList text) false) cs

/-- A block text. -/
def readBlock (isFolded : Bool) (cs : List Char) (r : Reading) : Except Fault Reading := do
  let r ← r.dropKey
  match Block.read? isFolded (max (r.indent + 1) 1).toNat cs with
  | some (text, rest) =>
    return { (r.emit (.scalar (String.ofList text) false)).upTo rest with keyAllowed := true }
  | none => throw .malformed

/-- A plain text. -/
def readPlain (r : Reading) : Except Fault Reading := do
  let r ← r.noteKey
  let (text, rest, crossed) := Plain.read (r.flow != 0) (r.indent + 1).toNat r.place.rest
  return { (r.emit (.scalar (String.ofList text) true)).upTo rest with keyAllowed := crossed }

/-- Whether a plain text may start with a character that `rest` follows. -/
def startsPlain (inFlow : Bool) (c : Char) (rest : List Char) : Bool :=
  !(isGap c || "-?:,[]\x7b\x7d#&*!|>'\"%@\x60".toList.contains c) ||
    (!atGap rest && (c == '-' || (!inFlow && (c == '?' || c == ':'))))

/-- The token that starts with a character, before `rest`. -/
def readToken (c : Char) (rest : List Char) (r : Reading) : Except Fault Reading :=
  let atFront := r.place.column = 0
  let inFlow := r.flow != 0
  let isAlone := inFlow || atGap rest
  if c = '%' && atFront then do
    let (d, rest) ← readDirective rest
    r.readOutside (.directive d) rest
  else if atFront && atThree '-' (c :: rest) then r.readOutside .documentStart (rest.drop 2)
  else if atFront && atThree '.' (c :: rest) then r.readOutside .documentEnd (rest.drop 2)
  else if c = '[' then r.readOpening .flowSequenceStart rest
  else if c = '\x7b' then r.readOpening .flowMappingStart rest
  else if c = ']' then r.readClosing .flowSequenceEnd rest
  else if c = '\x7d' then r.readClosing .flowMappingEnd rest
  else if c = ',' then r.readComma rest
  else if c = '-' && atGap rest then r.readDash rest
  else if c = '?' && isAlone then r.readQuestion rest
  else if c = ':' && isAlone then r.readColon rest
  else if c = '*' then r.readNode readAnchor .alias rest
  else if c = '&' then r.readNode readAnchor .anchor rest
  else if c = '!' then r.readNode readTag .tag rest
  else if c = '|' && !inFlow then r.readBlock false rest
  else if c = '>' && !inFlow then r.readBlock true rest
  else if c = '\'' then r.readQuoted (Quoted.readSingle (.blanks [])) rest
  else if c = '"' then r.readQuoted (Quoted.readDouble (.text (.blanks []))) rest
  else if startsPlain inFlow c rest then r.readPlain
  else .error .malformed

/-- The tokens of the rest of the text. Every token takes up a step and at
least one character. -/
def tokens : (steps : Nat) → Reading → Except Fault (List Token)
  | 0, _ => .error .malformed
  | steps + 1, r => do
    let r ← r.toNext.dropStaleKeys
    let r := r.unindent r.place.column
    match r.place.rest with
    | [] =>
      let r ← (r.unindent (-1)).dropKey
      return r.reversed.reverse
    | c :: rest => (← r.readToken c rest).tokens steps

end Reading

/-- The tokens of a text. -/
def tokens (text : String) : Except Fault (List Token) :=
  let cs := text.toList
  if cs.all isAllowed then
    let cs := unifyLines cs
    (Reading.start cs).tokens (cs.length + 1)
  else .error .malformed

end Bibliography.Yaml
