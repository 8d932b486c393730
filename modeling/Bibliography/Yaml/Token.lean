/-!
# The tokens of a document

Brackets and scalars as they are written, and marks for the blocks that
indentation opens and closes.
-/

namespace Bibliography.Yaml

/-- The name of a tag as it is written. -/
structure TagName where
  /-- What the name is abbreviated by; nothing for a name in full. -/
  handle : Option String
  suffix : String
  deriving DecidableEq, Repr

/-- An instruction before a document. -/
inductive Directive where
  /-- The major number of the version that the document is written in. -/
  | version (major : Nat)
  /-- What a handle abbreviates. -/
  | tagHandle (handle meaning : String)
  /-- One that means nothing here. -/
  | other
  deriving DecidableEq, Repr

/-- A token of a document. -/
inductive Token where
  | directive (d : Directive)
  | documentStart
  | documentEnd
  | blockSequenceStart
  | blockMappingStart
  | blockEnd
  | flowSequenceStart
  | flowSequenceEnd
  | flowMappingStart
  | flowMappingEnd
  | blockEntry
  | flowEntry
  | key
  | value
  | alias (name : String)
  | anchor (name : String)
  | tag (name : TagName)
  | scalar (text : String) (isPlain : Bool)
  deriving DecidableEq, Repr

end Bibliography.Yaml
