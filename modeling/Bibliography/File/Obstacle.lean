import Bibliography.File.Path
import Bibliography.Text.Quoted
/-!
# Obstacles

What can stand in the way of an access to files. The system has a number and a
name for each obstacle that it meets; a path that it does not even take for a
name is refused before.
-/

namespace Bibliography

/-- What stands in the way of an access to files. -/
inductive Obstacle where
  /-- There is nothing, or a directory on the way is missing. -/
  | missing
  /-- Something stands there already. -/
  | occupied
  /-- A file stands where a directory has to be. -/
  | notDirectory
  /-- A directory stands where a file has to be. -/
  | isDirectory
  /-- The path, or one of its steps, is too long. -/
  | tooLong
  /-- Any other that the system meets, by its number and its name. -/
  | other (number : Nat) (text : String)
  /-- The path is no name, for a reason. -/
  | noName (reason : String)
  deriving DecidableEq, Repr

/-- A failed access. -/
structure FileError where
  obstacle : Obstacle
  path : Path
  deriving DecidableEq, Repr

namespace FileError

/-- What is reported of an obstacle that the system meets. -/
def systemMessage (number : Nat) (text : String) (path : Path) : String :=
  "[Errno " ++ Number.intText number ++ "] " ++ text ++ ": " ++ quoted path.toString

/-- What is reported. -/
def message (e : FileError) : String :=
  match e.obstacle with
  | .missing => systemMessage 2 "No such file or directory" e.path
  | .occupied => systemMessage 17 "File exists" e.path
  | .notDirectory => systemMessage 20 "Not a directory" e.path
  | .isDirectory => systemMessage 21 "Is a directory" e.path
  | .tooLong => systemMessage 36 "File name too long" e.path
  | .other number text => systemMessage number text e.path
  | .noName reason => reason

end FileError

end Bibliography
