import Bibliography.Text.Lookup
import Bibliography.Text.Category.Table
/-!
# General categories

What kind of character a character is, as far as searching and quoting
need to know: a letter, a combining mark, a number, a sign (punctuation or
symbol), or something without a visible form of its own.
-/

namespace Bibliography.Text

/-- The general category of a character, to its first letter. -/
inductive Category where
  | letter
  | mark
  | number
  /-- Punctuation and symbols. -/
  | sign
  /-- Separators, controls, formats and code points without a character. -/
  | other
  deriving DecidableEq, Repr

def letters : Ranges := .ofList letterRanges
def marks : Ranges := .ofList markRanges
def numbers : Ranges := .ofList numberRanges
def signs : Ranges := .ofList signRanges

/-- The category of a character. -/
def category (c : Char) : Category :=
  if letters.contains c then .letter
  else if marks.contains c then .mark
  else if numbers.contains c then .number
  else if signs.contains c then .sign
  else .other

/-- Whether a character is written as itself inside a quoted text. -/
def isPrintable (c : Char) : Bool :=
  c == ' ' || category c != .other

end Bibliography.Text
