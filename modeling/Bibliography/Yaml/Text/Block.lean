import Bibliography.Number.Digits
import Bibliography.Yaml.Character
/-!
# Block texts

A block text is made of indented lines. A *literal* one keeps the ends of its
lines; a *folded* one joins lines that do not start with a blank. What
becomes of the ends of lines behind the last line is said in its header.
-/

namespace Bibliography.Yaml.Block

/-- What becomes of the ends of lines behind the last line. -/
inductive Ending where
  /-- All are dropped. -/
  | strip
  /-- The first is kept. -/
  | clip
  /-- All are kept. -/
  | keep
  deriving DecidableEq, Repr

/-- The ending that a sign stands for. -/
def ending? : Char → Option Ending
  | '+' => some .keep
  | '-' => some .strip
  | _ => none

/-- The indentation that a digit stands for. -/
def indentation? (c : Char) : Option Nat :=
  if c.isDigit && c != '0' then some (Number.digitValue c) else none

/-- Reads the header of a block text: a sign and a digit in either order, both
of which may be missing, up to the end of the line. -/
def header? (cs : List Char) : Option (Ending × Option Nat × List Char) := do
  let (ending, indentation, rest) := match cs with
    | [] => (none, none, cs)
    | c :: rest =>
      match ending? c, indentation? c with
      | some e, _ =>
        match rest.head?.bind indentation? with
        | some n => (some e, some n, rest.drop 1)
        | none => (some e, none, rest)
      | none, some n =>
        match rest.head?.bind ending? with
        | some e => (some e, some n, rest.drop 1)
        | none => (none, some n, rest)
      | none, none => (none, none, cs)
  if atSpaceOrEnd rest then
    let rest ← nextLine? rest
    return (ending.getD .clip, indentation, rest)
  else none

/-- Empty lines and the indentation of the next line: the ends of the lines,
the column reached, the highest column on the way, and the rest. -/
def measure (column highest : Nat) : List Char → List Char × Nat × Nat × List Char
  | [] => ([], column, highest, [])
  | c :: rest =>
    if c = ' ' then measure (column + 1) (max highest (column + 1)) rest
    else if isBreak c then
      let (breaks, found) := measure 0 highest rest
      (c :: breaks, found)
    else ([], column, highest, c :: rest)

/-- Empty lines before a line of known indentation: the ends of the lines, the
column reached, and the rest. -/
def skipEmpty (indent column : Nat) : List Char → List Char × Nat × List Char
  | [] => ([], column, [])
  | c :: rest =>
    if c = ' ' && column < indent then skipEmpty indent (column + 1) rest
    else if isBreak c then
      let (breaks, found) := skipEmpty indent 0 rest
      (c :: breaks, found)
    else ([], column, c :: rest)

/-- What a block text goes on with. -/
inductive Mode where
  /-- The rest of a line, which does not start with a blank or does. -/
  | line (flush : Bool)
  /-- Behind such a line and its end: the ends of empty lines, the last one
  first, and the column that has been reached. -/
  | gap (flush : Bool) (lineBreak : Char) (reversed : List Char) (column : Nat)

/-- What stands between two lines. -/
def joint (isFolded flush nextFlush : Bool) (lineBreak : Char) (breaks : List Char) : List Char :=
  if isFolded && lineBreak = '\n' && flush && nextFlush then
    if breaks.isEmpty then [' '] else breaks
  else lineBreak :: breaks

/-- A block text that has been read. -/
structure Body where
  /-- The lines up to the end of the last. -/
  text : List Char
  /-- The end of the last line, if it has one. -/
  lineBreak : List Char
  /-- The ends of the empty lines behind it. -/
  breaks : List Char
  rest : List Char

/-- The body with more text in front. -/
def Body.after (front : List Char) (b : Body) : Body :=
  { b with text := front ++ b.text }

/-- Reads the lines of a block text. -/
def readLines (isFolded : Bool) (indent : Nat) : Mode → List Char → Body
  | .line _, [] => ⟨[], [], [], []⟩
  | .line flush, c :: rest =>
    if isBreak c then readLines isFolded indent (.gap flush c [] 0) rest
    else (readLines isFolded indent (.line flush) rest).after [c]
  | .gap _ lineBreak reversed _, [] => ⟨[], [lineBreak], reversed.reverse, []⟩
  | .gap flush lineBreak reversed column, c :: rest =>
    if c = ' ' && column < indent then
      readLines isFolded indent (.gap flush lineBreak reversed (column + 1)) rest
    else if isBreak c then
      readLines isFolded indent (.gap flush lineBreak (c :: reversed) 0) rest
    else if column = indent then
      let nextFlush := !isSpace c
      (readLines isFolded indent (.line nextFlush) rest).after
        (joint isFolded flush nextFlush lineBreak reversed.reverse ++ [c])
    else ⟨[], [lineBreak], reversed.reverse, c :: rest⟩

/-- The text of a body that ends as its header says. -/
def Body.ended (ending : Ending) (b : Body) : List Char :=
  match ending with
  | .strip => b.text
  | .clip => b.text ++ b.lineBreak
  | .keep => b.text ++ b.lineBreak ++ b.breaks

/-- Reads a block text behind its mark. Its lines are indented by at least
`least`; how much exactly is said in the header or seen from its first
line. -/
def read? (isFolded : Bool) (least : Nat) (cs : List Char) : Option (List Char × List Char) := do
  let (ending, indentation, rest) ← header? cs
  let (indent, breaks, column, rest) := match indentation with
    | some n =>
      let indent := least + n - 1
      let (breaks, column, rest) := skipEmpty indent 0 rest
      (indent, breaks, column, rest)
    | none =>
      let (breaks, column, highest, rest) := measure 0 0 rest
      (max least highest, breaks, column, rest)
  let body : Body := match rest with
    | [] => ⟨[], [], breaks, []⟩
    | c :: tail =>
      if column = indent then
        (readLines isFolded indent (.line (!isSpace c)) tail).after (breaks ++ [c])
      else ⟨[], [], breaks, rest⟩
  return (body.ended ending, body.rest)

end Bibliography.Yaml.Block
