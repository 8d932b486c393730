import Bibliography.Command.Options
import Bibliography.Command.Run
/-!
# The program

Runs a command on the files of the machine it is called on.
-/

namespace Bibliography

/-- The obstacle of a number that the system gives. -/
def obstacleOf (number : UInt32) (text : String) : Obstacle :=
  -- some numbers come as what they lack to zero
  match (if number < 0x80000000 then number else -number).toNat with
  | 2 => .missing
  | 17 => .occupied
  | 20 => .notDirectory
  | 21 => .isDirectory
  | 22 => .noName text
  | 36 => .tooLong
  | n => .other n text

/-- The obstacle that an error of the machine tells of. -/
def obstacle : IO.Error → Obstacle
  | .noFileOrDirectory .. => .missing
  | .alreadyExists _ number text => obstacleOf number text
  | .inappropriateType _ number text => obstacleOf number text
  | .invalidArgument _ number text => obstacleOf number text
  | .permissionDenied _ number text => obstacleOf number text
  | .resourceExhausted _ number text => obstacleOf number text
  | .otherError number text => obstacleOf number text
  | e => .noName e.toString

/-- What stands at a path of the machine. -/
def readPlace (path : Path) : IO Place := do
  try
    return .file (← IO.FS.readBinFile path.toString)
  catch e =>
    match obstacle e with
    | .missing | .notDirectory => return .missing
    | .isDirectory => return .directory
    | o => return .barred ⟨o, path⟩

/-- Tries something with a file of the machine. -/
def attempt (path : Path) (action : IO Unit) : IO (Except FileError Unit) := do
  try
    action
    return .ok ()
  catch e => return .error ⟨obstacle e, path⟩

/-- Writes a text to a file of the machine. -/
def writeText (path : Path) (behind : Bool) (text : String) : IO Unit := do
  let file ← IO.FS.Handle.mk path.toString (if behind then .append else .write)
  file.putStr text

/-- Does on the machine what an access describes. -/
def Access.perform {α : Type} : Access α → IO α
  | done a => return a
  | look path next => do (next (← readPlace path)).perform
  | makeDirectory path next => do
    (next (← attempt path (IO.FS.createDirAll path.toString))).perform
  | write path behind text next => do
    (next (← attempt path (writeText path behind text))).perform

/-- The day, from when a file is said to have been made. -/
def readDay : IO Calendar.Date := do
  let (_, path) ← IO.FS.createTempFile
  let days := (← path.metadata).modified.sec / 86400
  IO.FS.removeFile path
  let epoch := Calendar.Moment.epoch.date
  return (Calendar.Date.ofOrdinal? (epoch.ordinal + days)).getD epoch

/-- The environment of the machine, as far as running the command line looks at
it. -/
def readEnvironment [Command.Surroundings] (args : List String) : IO Environment := do
  match ← (Command.variableName? args).perform with
  | none => return fun _ => none
  | some name =>
    let value ← IO.getEnv name
    return fun other => if other = name then value else none

end Bibliography

open Bibliography in
/-- Runs the command line. -/
def main (args : List String) : IO UInt32 := do
  let today ← readDay
  let stamp := Number.padded 10 (← IO.monoMsNow)
  let _ : Command.Surroundings := .onDay today
  let outcome ← (Command.run (← readEnvironment args) stamp args).perform
  IO.print outcome.out
  IO.eprint outcome.err
  return outcome.ending.code.toUInt32
