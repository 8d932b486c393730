/-!
# Paths

Names of files are kept as a root and the names of the steps from there.
Empty steps and steps that stay in place say nothing and are left out.
-/

namespace Bibliography

/-- The name of a file or directory. -/
structure Path where
  /-- Slashes at the front: one, two, or none for a relative path. -/
  root : String
  steps : List String
  deriving DecidableEq, Repr

namespace Path

/-- The steps of a text between slashes. -/
def splitSteps (text : String) : List String :=
  ((text.toList.splitOn '/').map String.ofList).filter fun s => s != "" && s != "."

/-- The path that a text names. Exactly two slashes at the front are a root
of their own; more are one. -/
def ofString (text : String) : Path :=
  let slashes := (text.toList.takeWhile (· == '/')).length
  let root := if slashes = 0 then "" else if slashes = 2 then "//" else "/"
  ⟨root, splitSteps text⟩

/-- The text of a path; a dot for the place itself. -/
def toString (p : Path) : String :=
  if p.root.isEmpty && p.steps.isEmpty then "." else p.root ++ "/".intercalate p.steps

/-- The path without its last step; the root and the place itself have none. -/
def parent (p : Path) : Path :=
  ⟨p.root, p.steps.dropLast⟩

/-- The path of what stands at one step from a directory, where two dots lead
back. Both roots lead back to themselves; the place itself leads back to
what is outside it. -/
def child (p : Path) (step : String) : Path :=
  if step = ".." then
    if p.steps.getLast?.all (· == "..") then
      if p.root.isEmpty then ⟨p.root, p.steps ++ [step]⟩ else p
    else p.parent
  else ⟨p.root, p.steps ++ [step]⟩

/-- The path followed by further steps. -/
def append (p : Path) (text : String) : Path :=
  let next := ofString text
  if next.root.isEmpty then ⟨p.root, p.steps ++ next.steps⟩ else next

end Path

end Bibliography
