import Bibliography.Text.Lookup
import Bibliography.Text.Digit.Table
/-!
# Digits of all scripts

A *decimal digit* can stand in a decimal numeral and has a value from zero
to nine. A character is *digit-like* when it is a decimal digit or a
typographic one, such as a superscript, which has a value too but is no
part of a numeral.
-/

namespace Bibliography.Text

def zeroTable : Array Nat := zeroes.toArray

/-- The value of a decimal digit of any script. -/
def digitValue? (c : Char) : Option Nat :=
  match lastAtMost? id zeroTable c.toNat with
  | some first => if c.toNat - first < 10 then some (c.toNat - first) else none
  | none => none

/-- A decimal digit has a value below ten. -/
theorem digitValue?_lt {c : Char} {n : Nat} (h : digitValue? c = some n) : n < 10 := by
  unfold digitValue? at h
  split at h
  · split at h
    · cases h; assumption
    · simp at h
  · simp at h

def typographicDigits : Ranges := .ofList typographicDigitRanges

/-- Whether the character is a digit in the wide sense. -/
def isDigitLike (c : Char) : Bool :=
  (digitValue? c).isSome || typographicDigits.contains c

end Bibliography.Text
