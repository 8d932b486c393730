import Bibliography.Number.Digits
import Bibliography.Yaml.Fault
import Bibliography.Yaml.Character
/-!
# Quoted texts

Between single quotes a quote is written twice and nothing else is special.
Between double quotes a backslash starts an escape, also of the end of a
line. Both kinds go on over several lines, which are folded, and no document
may start or end in them.
-/

namespace Bibliography.Yaml.Quoted

/-- The blanks and ends of lines that have been read since the last other
character. -/
inductive Gap where
  /-- Blanks in a line, the last one first. -/
  | blanks (reversed : List Char)
  /-- The end of a line, and those of empty lines behind it, the last one
  first. -/
  | lines (first : Char) (reversed : List Char)
  /-- The ends of empty lines behind an escaped end of a line, the last one
  first. -/
  | joined (reversed : List Char)

namespace Gap

/-- The gap with one more blank. Blanks at the front of a line are left out. -/
def addBlank (c : Char) : Gap → Gap
  | blanks l => blanks (c :: l)
  | g => g

/-- The gap with one more end of a line. Blanks at the end of a line are left
out. -/
def addBreak (c : Char) : Gap → Gap
  | blanks _ => lines c []
  | lines first l => lines first (c :: l)
  | joined l => joined (c :: l)

/-- What the gap stands for. -/
def text : Gap → List Char
  | blanks l => l.reverse
  | lines first l => foldedBreaks first l.reverse
  | joined l => l.reverse

end Gap

/-- Reads up to the closing single quote. -/
def readSingle (gap : Gap) : List Char → Except Fault (List Char × List Char)
  | [] => .error .malformed
  | '\'' :: '\'' :: rest =>
    (readSingle (.blanks []) rest).map fun (t, rest) => (gap.text ++ '\'' :: t, rest)
  | c :: rest =>
    if isSpace c then readSingle (gap.addBlank c) rest
    else if isBreak c then
      if atMarker rest then .error .malformed else readSingle (gap.addBreak c) rest
    else if c = '\'' then .ok (gap.text, rest)
    else (readSingle (.blanks []) rest).map fun (t, rest) => (gap.text ++ c :: t, rest)

/-- The character of a one-letter escape. -/
def escaped? : Char → Option Char
  | '0' => some '\x00'
  | 'a' => some '\x07'
  | 'b' => some '\x08'
  | 't' => some '\t'
  | '\t' => some '\t'
  | 'n' => some '\n'
  | 'v' => some '\x0b'
  | 'f' => some '\x0c'
  | 'r' => some '\r'
  | 'e' => some '\x1b'
  | ' ' => some ' '
  | '"' => some '"'
  | '\\' => some '\\'
  | '/' => some '/'
  | 'N' => some '\u0085'
  | '_' => some '\u00a0'
  | 'L' => some '\u2028'
  | 'P' => some '\u2029'
  | _ => none

/-- How many hexadecimal digits follow the letter of an escape. -/
def codeLength? : Char → Option Nat
  | 'x' => some 2
  | 'u' => some 4
  | 'U' => some 8
  | _ => none

/-- The character of a code. Half of a surrogate pair is no character and
leaves the replacement character. -/
def ofCode (code : Nat) : Except Fault Char :=
  if 0x110000 ≤ code then .error (.noCharacter code)
  else if 0xD800 ≤ code && code < 0xE000 then .ok '\uFFFD'
  else .ok (Char.ofNat code)

/-- What a text between double quotes goes on with. -/
inductive Mode where
  /-- A character, after a gap. -/
  | text (gap : Gap)
  /-- The character behind a backslash. -/
  | escape
  /-- So many further digits of a code, after those of a number. -/
  | code (left number : Nat)

/-- Reads up to the closing double quote. -/
def readDouble : Mode → List Char → Except Fault (List Char × List Char)
  | _, [] => .error .malformed
  | .text gap, c :: rest =>
    if isSpace c then readDouble (.text (gap.addBlank c)) rest
    else if isBreak c then
      if atMarker rest then .error .malformed else readDouble (.text (gap.addBreak c)) rest
    else if c = '"' then .ok (gap.text, rest)
    else if c = '\\' then
      (readDouble .escape rest).map fun (t, rest) => (gap.text ++ t, rest)
    else (readDouble (.text (.blanks [])) rest).map fun (t, rest) => (gap.text ++ c :: t, rest)
  | .escape, c :: rest =>
    match escaped? c, codeLength? c with
    | some e, _ => (readDouble (.text (.blanks [])) rest).map fun (t, rest) => (e :: t, rest)
    | none, some length => readDouble (.code (length - 1) 0) rest
    | none, none =>
      if isBreak c && !atMarker rest then readDouble (.text (.joined [])) rest
      else .error .malformed
  | .code left number, c :: rest =>
    if Number.isHexDigit c then
      let number := 16 * number + Number.digitValue c
      match left with
      | 0 => do
        let e ← ofCode number
        let (t, rest) ← readDouble (.text (.blanks [])) rest
        return (e :: t, rest)
      | left + 1 => readDouble (.code left number) rest
    else .error .malformed

end Bibliography.Yaml.Quoted
