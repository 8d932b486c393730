import Bibliography.File.Obstacle
/-!
# What stands at a path
-/

namespace Bibliography

/-- What stands at a path. -/
inductive Place where
  | missing
  | directory
  | file (data : ByteArray)
  /-- Something keeps from looking. -/
  | barred (e : FileError)

/-- Why no text can be read at a path. -/
inductive ReadError where
  /-- There is no such file. -/
  | missing
  /-- There is a directory. -/
  | directory
  /-- The bytes are no text. -/
  | notText
  | barred (e : FileError)
  deriving DecidableEq, Repr

/-- What is reported. -/
def ReadError.message : ReadError → String
  | missing => "there is no such file"
  | directory => "there is a directory"
  | notText => "the file is not UTF-8 text"
  | barred e => e.message

/-- The text of a file. -/
def Place.text : Place → Except ReadError String
  | missing => .error .missing
  | directory => .error .directory
  | file data =>
    match String.fromUTF8? data with
    | some text => .ok text
    | none => .error .notText
  | barred e => .error (.barred e)

end Bibliography
