import Bibliography.Text.Case
/-!
# Acronyms and the case of a comparison

A run of two or more capitals from A to Z marks an acronym. A text with
one is looked for as it stands; any other is looked for in lower case.
-/

namespace Bibliography.Text

/-- The capitals that make an acronym: A to Z alone. -/
def isCapital (c : Char) : Bool :=
  'A' ≤ c && c ≤ 'Z'

/-- A run of capitals and where it stands. -/
structure Acronym where
  /-- The capitals. -/
  text : List Char
  /-- Position of the first. -/
  start : Nat
  /-- Position after the last. -/
  stop : Nat
  deriving DecidableEq, Repr

/-- The acronyms of a text whose first character is at position `start`. -/
def acronymsFrom (start : Nat) (cs : List Char) : List Acronym :=
  match cs with
  | [] => []
  | c :: rest =>
    let run := (c :: rest).takeWhile isCapital
    if h : 2 ≤ run.length then
      ⟨run, start, start + run.length⟩ ::
        acronymsFrom (start + run.length) ((c :: rest).drop run.length)
    else acronymsFrom (start + 1) rest
termination_by cs.length
decreasing_by
  · simp only [List.length_drop, List.length_cons]
    simp only [run] at h
    omega
  · simp

/-- The acronyms of a text, from left to right. -/
def acronyms (cs : List Char) : List Acronym :=
  acronymsFrom 0 cs

/-- Whether two capitals stand side by side. -/
def hasAcronym : List Char → Bool
  | [] => false
  | c :: rest =>
    (isCapital c && rest.head?.any isCapital) || hasAcronym rest

/-- Whether the first text stands somewhere in the second, in one piece. -/
def occursIn (piece : List Char) : List Char → Bool
  | [] => piece.isEmpty
  | c :: rest => piece.isPrefixOf (c :: rest) || occursIn piece rest

/-- Whether the candidate has the query in it: as it stands when the query
has an acronym, otherwise without regard to case. -/
def isFoundIn (query candidate : List Char) : Bool :=
  if hasAcronym query then occursIn query candidate
  else occursIn (lower query) (lower candidate)

end Bibliography.Text
