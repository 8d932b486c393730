/-!
# Characters of a document

Every line ends in a line feed, or in one of the two separators of lines and
paragraphs. The other ways to end a line are read as a line feed before
anything else is looked at.
-/

namespace Bibliography.Yaml

/-- Whether a document may hold the character. -/
def isAllowed (c : Char) : Bool :=
  let n := c.toNat
  n = 9 || n = 10 || n = 13 || (0x20 ≤ n && n ≤ 0x7E) || n = 0x85 ||
    (0xA0 ≤ n && n ≤ 0xFFFD) || 0x10000 ≤ n

/-- The text with a line feed for each carriage return, with or without a line
feed behind it, and for each next-line character. -/
def unifyLines : List Char → List Char
  | [] => []
  | '\r' :: '\n' :: rest => '\n' :: unifyLines rest
  | c :: rest => (if c = '\r' || c.toNat = 0x85 then '\n' else c) :: unifyLines rest

/-- The end of a line. -/
def isBreak (c : Char) : Bool :=
  c == '\n' || c == '\u2028' || c == '\u2029'

/-- A blank inside a line. -/
def isSpace (c : Char) : Bool :=
  c == ' ' || c == '\t'

/-- What separates words. -/
def isGap (c : Char) : Bool :=
  isSpace c || isBreak c

/-- Whether a word ends here. -/
def atGap : List Char → Bool
  | [] => true
  | c :: _ => isGap c

/-- Whether a space follows, or the line ends. -/
def atSpaceOrEnd : List Char → Bool
  | [] => true
  | c :: _ => c == ' ' || isBreak c

/-- Whether three of a character stand here, as a word of their own. -/
def atThree (mark : Char) : List Char → Bool
  | a :: b :: c :: rest => a == mark && b == mark && c == mark && atGap rest
  | _ => false

/-- Whether a document starts or ends here, at the front of a line. -/
def atMarker (cs : List Char) : Bool :=
  atThree '-' cs || atThree '.' cs

/-- A bracket or comma of the flow notation. -/
def isFlowMark (c : Char) : Bool :=
  c == ',' || c == '[' || c == ']' || c == '\x7b' || c == '\x7d'

/-- A character of a name. -/
def isWordChar (c : Char) : Bool :=
  c.isAlphanum || c == '-' || c == '_'

/-- The text after spaces, and after a comment if one follows them. -/
def dropComment (cs : List Char) : List Char :=
  match cs.dropWhile (· == ' ') with
  | '#' :: rest => rest.dropWhile fun c => !isBreak c
  | rest => rest

/-- The text after spaces, a comment and the end of the line; nothing if
anything else stands on the line. -/
def nextLine? (cs : List Char) : Option (List Char) :=
  match dropComment cs with
  | [] => some []
  | c :: rest => if isBreak c then some rest else none

/-- What stands for the ends of lines between two words: the first, and those
of the empty lines behind it. One line feed is folded into a space, and of
several the first is dropped. -/
def foldedBreaks (first : Char) (more : List Char) : List Char :=
  if first = '\n' then (if more.isEmpty then [' '] else more) else first :: more

end Bibliography.Yaml
