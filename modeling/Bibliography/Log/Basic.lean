import Bibliography.File.Access
import Bibliography.Log.Level
/-!
# The log

Messages go to the terminal and, if asked for, to a file as well. What was
set up earlier is forgotten whenever the log is set up anew, even if that
fails halfway.
-/

namespace Bibliography

/-- What a log is set up with. -/
structure LogRequest where
  /-- The name of the threshold of the terminal. -/
  level : Option String := some "INFO"
  /-- What is being done; without it nothing goes to a file. -/
  action : Option String := none
  toFile : Bool := false
  /-- The directory of log files. -/
  directory : Option String := some "log"

namespace Log

/-- Where messages come to. -/
inductive Destination where
  | terminal
  | file (path : Path)
  deriving DecidableEq, Repr

/-- A way out of the log. -/
structure Outlet where
  destination : Destination
  /-- The least number that is let through. -/
  least : Nat
  deriving DecidableEq, Repr

end Log

/-- A log. -/
structure Log where
  /-- The least number that is looked at; zero leaves the choice open. -/
  level : Nat
  /-- Whether messages are kept from logs around this one. -/
  isApart : Bool
  /-- The outlets, in the order that a message is handed to them. -/
  outlets : List Log.Outlet
  deriving DecidableEq, Repr

/-- Why a log cannot be set up. -/
inductive LogError where
  | level (name : Log.ReservedName)
  | file (e : FileError)
  deriving DecidableEq, Repr

namespace Log

/-- A log that has not been set up. -/
def fresh : Log := ⟨0, false, []⟩

/-- The threshold of files. -/
def fileThreshold : Nat := Level.debug.number

/-- The least number that is looked at where the choice is left open, and that
reaches the terminal where the log has no outlet. -/
def usualThreshold : Nat := Level.warning.number

/-! ## Outlets -/

/-- The log with one more outlet. -/
def withOutlet (log : Log) (o : Outlet) : Log :=
  { log with outlets := log.outlets ++ [o] }

/-- The log without its outlets, which are taken away one by one. -/
def withoutOutlets (log : Log) : Log :=
  log.outlets.foldl (fun log o => { log with outlets := log.outlets.erase o }) log

/-- The threshold of the terminal. -/
def terminal (log : Log) : Option Nat :=
  (log.outlets.find? (·.destination == .terminal)).map (·.least)

/-- The file that messages go to. -/
def file (log : Log) : Option Path :=
  log.outlets.findSome? fun o =>
    match o.destination with
    | .terminal => none
    | .file path => some path

/-! ## Setting up -/

/-- The file of an action in a directory. Its name ends in a stamp, which
tells runs apart. -/
def filePath (directory : Path) (action stamp : String) : Path :=
  directory.append (action ++ "_" ++ stamp ++ ".log")

/-- The directory of the files of an action. -/
def actionDirectory (request : LogRequest) (action : String) : Path :=
  let root := request.directory.getD ""
  (Path.ofString (if root.isEmpty then "log" else root)).append action

/-- Opens the file of an action, which is made if there is none. -/
def openFile (request : LogRequest) (action stamp : String) : Access (Except FileError Path) := do
  let directory := actionDirectory request action
  match ← Access.directory directory with
  | .error e => return .error e
  | .ok _ =>
    let path := filePath directory action stamp
    match ← Access.append path "" with
    | .error e => return .error e
    | .ok _ => return .ok path

/-- The action whose messages go to a file, if a request asks for that. -/
def fileAction? (request : LogRequest) : Option String :=
  if request.toFile then request.action.filter (!·.isEmpty) else none

/-- Sets up the log. -/
def configure (request : LogRequest) (stamp : String) (log : Log) :
    Access (Except LogError (Option Path) × Log) := do
  let log := log.withoutOutlets
  match threshold request.level with
  | .error name => return (.error (.level name), log)
  | .ok least =>
    let log := log.withOutlet ⟨.terminal, least⟩
    match fileAction? request with
    | none => return (.ok none, { log with level := least, isApart := true })
    | some action =>
      match ← openFile request action stamp with
      | .error e => return (.error (.file e), log)
      | .ok path =>
        let log := log.withOutlet ⟨.file path, fileThreshold⟩
        return (.ok (some path), { log with level := min fileThreshold least, isApart := true })

/-! ## Messages -/

/-- Whether a message with a number is looked at. -/
def isEnabled (log : Log) (number : Int) : Bool :=
  0 < number && ((if log.level = 0 then usualThreshold else log.level : Nat) : Int) ≤ number

/-- The line of a message. -/
def line (number : Int) (text : String) : String :=
  "[" ++ mark number ++ "] " ++ text ++ "\n"

/-- Writes a line to where it goes; what the terminal shows of it. -/
def Destination.write (entry : String) : Destination → Access String
  | terminal => return entry
  | file path => do
    discard (Access.append path entry)
    return ""

/-- Hands a message to one outlet after the other; what the terminal shows of
it. -/
def deliver (number : Int) (text : String) : List Outlet → Access String
  | [] => return ""
  | o :: rest => do
    let shown ← if o.least ≤ number then o.destination.write (line number text) else pure ""
    return shown ++ (← deliver number text rest)

/-- Logs a message; what the terminal shows of it. Where there is no outlet,
that is the text alone. -/
def record (log : Log) (number : Int) (text : String) : Access String :=
  if log.isEnabled number then
    if log.outlets.isEmpty then
      return if usualThreshold ≤ number then text ++ "\n" else ""
    else deliver number text log.outlets
  else return ""

end Log

end Bibliography
