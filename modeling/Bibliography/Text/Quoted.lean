import Bibliography.Text.Category
import Bibliography.Number.Digits
/-!
# Quoted texts

A text inside quotation marks, with everything that has no visible form
written as an escape. Single quotes are used unless the text has single
quotes and no double ones.
-/

namespace Bibliography.Text

/-- A number in hexadecimal, with zeros in front up to the given width. -/
def hex (width n : Nat) : List Char :=
  let digits := Nat.toDigits 16 n
  List.replicate (width - digits.length) '0' ++ digits

/-- One character inside the given quotation marks. -/
def quotedChar (mark c : Char) : List Char :=
  if c = mark || c = '\\' then ['\\', c]
  else if c = '\n' then ['\\', 'n']
  else if c = '\r' then ['\\', 'r']
  else if c = '\t' then ['\\', 't']
  else if isPrintable c then [c]
  else if c.toNat < 0x100 then '\\' :: 'x' :: hex 2 c.toNat
  else if c.toNat < 0x10000 then '\\' :: 'u' :: hex 4 c.toNat
  else '\\' :: 'U' :: hex 8 c.toNat

/-- The quotation mark that a text is put into. -/
def quotationMark (cs : List Char) : Char :=
  if cs.contains '\'' && !cs.contains '"' then '"' else '\''

/-- The text in quotation marks. -/
def quoted (cs : List Char) : List Char :=
  let mark := quotationMark cs
  mark :: (cs.flatMap (quotedChar mark) ++ [mark])

end Bibliography.Text

namespace Bibliography

/-- The string in quotation marks. -/
def quoted (s : String) : String :=
  String.ofList (Text.quoted s.toList)

end Bibliography
