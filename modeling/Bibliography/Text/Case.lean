import Bibliography.Text.Lookup
import Bibliography.Text.Case.Table
/-!
# Upper and lower case

The full case mappings, which may change the length of a text. Only one
mapping looks at its surroundings: a capital sigma becomes a final sigma
when a cased character stands before it and none after it, passing over
case-ignorable characters on both sides.
-/

namespace Bibliography.Text

def lowerMap : Runs := .ofList lowerRuns
def upperMap : Runs := .ofList upperRuns
def upperLong : Expansions := .ofList upperExpansions
def casedSet : Ranges := .ofList casedRanges
def caseIgnorableSet : Ranges := .ofList caseIgnorableRanges

/-- The upper-case form of one character. -/
def upperChar (c : Char) : List Char :=
  if c.toNat < 0x80 then [c.toUpper]
  else match upperLong.get? c with
    | some cs => cs
    | none => [(upperMap.get? c).getD c]

/-- The lower-case form of one character, wherever it stands. -/
def lowerChar (c : Char) : List Char :=
  if c.toNat < 0x80 then [c.toLower]
  else if c = 'İ' then ['i', '\u0307']
  else [(lowerMap.get? c).getD c]

/-- Whether the first character that is not case-ignorable is cased. -/
def meetsCased (cs : List Char) : Bool :=
  match cs.dropWhile caseIgnorableSet.contains with
  | c :: _ => casedSet.contains c
  | [] => false

/-- Lower case of a text that stands after the text `before`, given from its
last character to its first. -/
def lowerFrom (before : List Char) : List Char → List Char
  | [] => []
  | c :: rest =>
    let form :=
      if c = 'Σ' then (if meetsCased before && !meetsCased rest then ['ς'] else ['σ'])
      else lowerChar c
    form ++ lowerFrom (c :: before) rest

/-- The text in lower case. -/
def lower (cs : List Char) : List Char :=
  lowerFrom [] cs

/-- The text in upper case. -/
def upper (cs : List Char) : List Char :=
  cs.flatMap upperChar

end Bibliography.Text

namespace Bibliography

/-- The string in lower case. -/
def lowered (s : String) : String :=
  String.ofList (Text.lower s.toList)

/-- The string in upper case. -/
def uppered (s : String) : String :=
  String.ofList (Text.upper s.toList)

end Bibliography
