/-!
# How strongly something matches
-/

namespace Bibliography.Match

/-- How strongly a token or a record matches. -/
inductive Strength where
  /-- By the whole value of a field. -/
  | exact
  /-- By a part of a field's text. -/
  | inPart
  /-- Not at all. -/
  | none
  deriving DecidableEq, Repr

namespace Strength

/-- Higher for a stronger match. -/
def rank : Strength → Nat
  | exact => 2
  | inPart => 1
  | none => 0

/-- The word for it. -/
def name : Strength → String
  | exact => "exact"
  | inPart => "partial"
  | none => "none"

end Strength

end Bibliography.Match
