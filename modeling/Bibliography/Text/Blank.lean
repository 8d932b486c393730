/-!
# White space

Which characters count as white space, and texts without it at their ends.
A text is *blank* when it holds nothing else.
-/

namespace Bibliography.Text

/-- White space: the spaces, the line and paragraph separators, and the
control characters that move the cursor or separate fields of information. -/
def isBlank (c : Char) : Bool :=
  let n := c.toNat
  (9 ≤ n && n ≤ 13) || (28 ≤ n && n ≤ 32) || n == 0x85 || n == 0xA0 || n == 0x1680 ||
    (0x2000 ≤ n && n ≤ 0x200A) || n == 0x2028 || n == 0x2029 || n == 0x202F || n == 0x205F ||
    n == 0x3000

/-- The text without the white space at its end. -/
def stripEnd (cs : List Char) : List Char :=
  (cs.reverse.dropWhile isBlank).reverse

/-- The text without the white space at its two ends. -/
def strip (cs : List Char) : List Char :=
  stripEnd (cs.dropWhile isBlank)

/-- A text that holds nothing but white space. -/
def blank (cs : List Char) : Bool :=
  cs.all isBlank

end Bibliography.Text

namespace Bibliography

/-- The string without the white space at its two ends. -/
def stripped (s : String) : String :=
  String.ofList (Text.strip s.toList)

/-- Whether the string holds nothing but white space. -/
def isBlankText (s : String) : Bool :=
  Text.blank s.toList

end Bibliography
