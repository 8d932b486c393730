import Bibliography.Yaml.Character
/-!
# Plain texts

A plain text has no marks around it. It ends where its characters would mean
something else, and may go on over several lines, whose ends are *folded*:
one becomes a space, and of several all but the first are kept.
-/

namespace Bibliography.Yaml.Plain

/-- Whether a word of a plain text ends at a character that `rest` follows. -/
def endsAt (inFlow : Bool) (c : Char) (rest : List Char) : Bool :=
  isGap c ||
    (c == ':' && (atGap rest || (inFlow && rest.head?.any isFlowMark))) ||
    (inFlow && (isFlowMark c || c == '?'))

/-- The word at the front, and the rest. -/
def word (inFlow : Bool) : List Char → List Char × List Char
  | [] => ([], [])
  | c :: rest =>
    if endsAt inFlow c rest then ([], c :: rest)
    else
      let (w, rest) := word inFlow rest
      (c :: w, rest)

/-- What stands between two words of a plain text. -/
structure Gap where
  /-- What the gap stands for. -/
  text : List Char
  rest : List Char
  /-- Whether a line ends in the gap. -/
  crossed : Bool
  /-- The column that the gap ends in, after the end of a line. -/
  column : Nat

/-- The empty lines and spaces after the end of a line; nothing if a document
starts or ends there. -/
def emptyLines (column : Nat) : List Char → Option (List Char × Nat) × List Char
  | [] => (some ([], column), [])
  | c :: rest =>
    if c = ' ' then emptyLines (column + 1) rest
    else if isBreak c then
      if atMarker rest then (none, rest)
      else
        let (found, rest) := emptyLines 0 rest
        (found.map fun (breaks, column) => (c :: breaks, column), rest)
    else (some ([], column), c :: rest)

/-- The gap after a word. A gap with no text ends the plain text. -/
def gap (cs : List Char) : Gap :=
  let spaces := cs.takeWhile (· == ' ')
  match cs.dropWhile (· == ' ') with
  | [] => ⟨spaces, [], false, 0⟩
  | c :: rest =>
    if isBreak c then
      if atMarker rest then ⟨[], rest, true, 0⟩
      else match emptyLines 0 rest with
        | (some (breaks, column), rest) => ⟨foldedBreaks c breaks, rest, true, column⟩
        | (none, rest) => ⟨[], rest, true, 0⟩
    else ⟨spaces, c :: rest, false, 0⟩

/-- Whether a plain text ends with a gap: outside the flow notation its further
lines are indented. -/
def endsWith (inFlow : Bool) (indent : Nat) (g : Gap) : Bool :=
  g.text.isEmpty || g.rest.head? == some '#' ||
    (!inFlow && g.crossed && g.column < indent)

/-- The words of a plain text with the gaps between them, the rest, and
whether the text ends behind the end of a line. Every word takes up a step. -/
def readWords (inFlow : Bool) (indent : Nat) :
    (steps : Nat) → (before : List Char) → (crossed : Bool) → List Char →
      List Char × List Char × Bool
  | 0, _, crossed, cs => ([], cs, crossed)
  | steps + 1, before, crossed, cs =>
    let (w, rest) := word inFlow cs
    if w.isEmpty then ([], cs, crossed)
    else
      let g := gap rest
      if endsWith inFlow indent g then (before ++ w, g.rest, g.crossed)
      else
        let (text, rest, crossed) := readWords inFlow indent steps g.text g.crossed g.rest
        (before ++ w ++ text, rest, crossed)

/-- Reads a plain text whose further lines are indented by at least `indent`. -/
def read (inFlow : Bool) (indent : Nat) (cs : List Char) : List Char × List Char × Bool :=
  readWords inFlow indent cs.length [] false cs

end Bibliography.Yaml.Plain
