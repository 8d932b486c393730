import Bibliography.Number.Digits
import Bibliography.Yaml.Character
import Bibliography.Yaml.Fault
import Bibliography.Yaml.Token
/-!
# Names in a document

The names of anchors, tags and directives. All are read behind the sign
that announces them, and what may follow a name is checked with it.
-/

namespace Bibliography.Yaml

/-- A run of word characters, and the rest; nothing if it is empty. -/
def word? (cs : List Char) : Option (List Char × List Char) :=
  let w := cs.takeWhile isWordChar
  if w.isEmpty then none else some (w, cs.dropWhile isWordChar)

/-! ## Anchors -/

/-- Whether the name of an anchor may end before these characters. -/
def endsAnchor : List Char → Bool
  | [] => true
  | c :: _ => isGap c || "?:,]\x7d%@\x60".toList.contains c

/-- Reads the name of an anchor. -/
def readAnchor (cs : List Char) : Except Fault (String × List Char) :=
  match word? cs with
  | some (w, rest) => if endsAnchor rest then .ok (String.ofList w, rest) else .error .malformed
  | none => .error .malformed

/-! ## Tags -/

/-- A character that stands for itself in the name of a tag. -/
def isTagChar (c : Char) : Bool :=
  isWordChar c || ";/?:@&=+$,.!~*'()[]".toList.contains c

/-- The characters of bytes, the last of which comes first. -/
def ofBytes (reversed : List UInt8) : Except Fault (List Char) :=
  match String.fromUTF8? ⟨reversed.reverse.toArray⟩ with
  | some s => .ok s.toList
  | none => .error .malformed

/-- Reads the name of a tag behind escaped bytes, the last of which comes
first. -/
def readSuffix (reversed : List UInt8) : List Char → Except Fault (List Char × List Char)
  | '%' :: a :: b :: rest =>
    if Number.isHexDigit a && Number.isHexDigit b then
      readSuffix (UInt8.ofNat (Number.ofDigits 16 [a, b]) :: reversed) rest
    else .error .malformed
  | [] => (ofBytes reversed).map (·, [])
  | c :: rest => do
    let front ← ofBytes reversed
    if c = '%' then throw .malformed
    else if isTagChar c then
      let (t, rest) ← readSuffix [] rest
      return (front ++ c :: t, rest)
    else return (front, c :: rest)

/-- Reads the name of a tag, which is not empty. -/
def readTagText (cs : List Char) : Except Fault (String × List Char) := do
  let (t, rest) ← readSuffix [] cs
  if cs.length = rest.length then throw .malformed
  return (String.ofList t, rest)

/-- Reads a handle behind its first exclamation mark: a second one ends it,
after a word or at once. A lone mark before a space is a handle too. -/
def readHandle (cs : List Char) : Except Fault (String × List Char) :=
  match cs with
  | ' ' :: _ => .ok ("!", cs)
  | _ =>
    match cs.dropWhile isWordChar with
    | '!' :: rest =>
      .ok (String.ofList ('!' :: (cs.takeWhile isWordChar ++ ['!'])), rest)
    | _ => .error .malformed

/-- Whether a handle of its own stands in front of the name of a tag. -/
def hasHandle (cs : List Char) : Bool :=
  (cs.takeWhile fun c => !(c == ' ' || isBreak c)).contains '!'

/-- Reads a tag behind its exclamation mark: a name in full between angle
brackets, a lone mark, or a name behind a handle. -/
def readTag (cs : List Char) : Except Fault (TagName × List Char) := do
  let (name, rest) ← match cs with
    | '<' :: rest => do
      let (t, rest) ← readTagText rest
      match rest with
      | '>' :: rest => pure (TagName.mk none t, rest)
      | _ => throw .malformed
    | _ =>
      if atGap cs then pure (TagName.mk none "!", cs)
      else do
        let (handle, rest) ← if hasHandle cs then readHandle cs else pure ("!", cs)
        let (t, rest) ← readTagText rest
        pure (TagName.mk (some handle) t, rest)
  if atSpaceOrEnd rest then return (name, rest) else throw .malformed

/-! ## Directives -/

/-- Reads the number of a version. -/
def readVersionPart (cs : List Char) : Except Fault (Nat × List Char) :=
  let digits := cs.takeWhile Char.isDigit
  if digits.isEmpty then .error .malformed
  else if Number.maxDigits < digits.length then .error (.numeral (.tooManyDigits digits.length))
  else .ok (Number.ofDigits 10 digits, cs.dropWhile Char.isDigit)

/-- The text after spaces. -/
def dropSpaces (cs : List Char) : List Char :=
  cs.dropWhile (· == ' ')

/-- Reads a version: two numbers with a point between them. -/
def readVersion (cs : List Char) : Except Fault (Directive × List Char) := do
  let (major, rest) ← readVersionPart (dropSpaces cs)
  match rest with
  | '.' :: rest =>
    let (_, rest) ← readVersionPart rest
    if atSpaceOrEnd rest then return (.version major, rest) else throw .malformed
  | _ => throw .malformed

/-- Reads a handle and what it abbreviates. -/
def readTagHandle (cs : List Char) : Except Fault (Directive × List Char) := do
  match dropSpaces cs with
  | '!' :: rest =>
    let (handle, rest) ← readHandle rest
    if rest.head? != some ' ' then throw .malformed
    let (meaning, rest) ← readTagText (dropSpaces rest)
    if atSpaceOrEnd rest then return (.tagHandle handle meaning, rest) else throw .malformed
  | _ => throw .malformed

/-- Reads a directive behind its percent sign, up to the end of its line. -/
def readDirective (cs : List Char) : Except Fault (Directive × List Char) := do
  match word? cs with
  | none => throw .malformed
  | some (name, rest) =>
    if !atSpaceOrEnd rest then throw .malformed
    let (d, rest) ←
      if name = "YAML".toList then readVersion rest
      else if name = "TAG".toList then readTagHandle rest
      else pure (Directive.other, rest.dropWhile fun c => !isBreak c)
    match nextLine? rest with
    | some rest => return (d, rest)
    | none => throw .malformed

end Bibliography.Yaml
