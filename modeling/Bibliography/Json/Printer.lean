import Bibliography.Json.Value
/-!
# Writing JSON text

Values are written on one line, or with one item or member to a line,
indented by two spaces. Characters are written as themselves but for
quotes, backslashes and control characters.
-/

namespace Bibliography.Json

/-- One of the sixteen lower-case hexadecimal digits. -/
def hexDigit (n : Nat) : Char :=
  Nat.digitChar (n % 16)

/-- A character inside a JSON string. -/
def escapedChar (c : Char) : List Char :=
  if c = '"' then ['\\', '"']
  else if c = '\\' then ['\\', '\\']
  else if c = '\n' then ['\\', 'n']
  else if c = '\r' then ['\\', 'r']
  else if c = '\t' then ['\\', 't']
  else if c = '\x0c' then ['\\', 'f']
  else if c = '\x08' then ['\\', 'b']
  else if c.toNat < 0x20 then ['\\', 'u', '0', '0', hexDigit (c.toNat / 16), hexDigit c.toNat]
  else [c]

/-- A text as a JSON string. -/
def stringText (s : String) : List Char :=
  '"' :: (s.toList.flatMap escapedChar ++ ['"'])

/-- How JSON spells the numbers that are not finite. -/
def specialTexts : Binary64.SpecialTexts := ⟨"NaN", "Infinity"⟩

/-- A value with nothing inside it. -/
def leafText : Json → List Char
  | null => "null".toList
  | bool true => "true".toList
  | bool false => "false".toList
  | int n => (Number.intText n).toList
  | real x => (x.text specialTexts).toList
  | str s => stringText s
  | arr _ => "[]".toList
  | obj _ => ['\x7b', '\x7d']

mutual

/-- The text of a value at a depth: `newLine` gives the break before what
stands at a depth. -/
def textAt (newLine : Nat → List Char) (depth : Nat) : Json → List Char
  | arr (v :: rest) =>
    '[' :: (newLine (depth + 1) ++ textAt newLine (depth + 1) v ++ itemsText newLine (depth + 1) rest ++
      newLine depth ++ [']'])
  | obj ((k, v) :: rest) =>
    '\x7b' :: (newLine (depth + 1) ++ stringText k ++ [':', ' '] ++ textAt newLine (depth + 1) v ++
      membersText newLine (depth + 1) rest ++ newLine depth ++ ['\x7d'])
  | v => leafText v

/-- The items after the first, each behind a comma. -/
def itemsText (newLine : Nat → List Char) (depth : Nat) : List Json → List Char
  | [] => []
  | v :: rest => ',' :: (newLine depth ++ textAt newLine depth v ++ itemsText newLine depth rest)

/-- The members after the first, each behind a comma. -/
def membersText (newLine : Nat → List Char) (depth : Nat) : List (String × Json) → List Char
  | [] => []
  | (k, v) :: rest =>
    ',' :: (newLine depth ++ stringText k ++ [':', ' '] ++ textAt newLine depth v ++
      membersText newLine depth rest)

end

/-- A line break and two spaces for each level of depth. -/
def newLine (depth : Nat) : List Char :=
  '\n' :: List.replicate (2 * depth) ' '

/-- The value on one line. -/
def compact (v : Json) : String :=
  String.ofList (textAt (fun _ => []) 0 v)

/-- The value with one item or member to a line. -/
def pretty (v : Json) : String :=
  String.ofList (textAt newLine 0 v)

end Bibliography.Json
