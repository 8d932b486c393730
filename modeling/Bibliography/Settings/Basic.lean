import Bibliography.Log.Level
import Bibliography.Order.Criterion
import Bibliography.Output.Writer
/-!
# Settings

What can be set for a run: how it logs, where the library is, what a search
does when nothing else is asked for, and how pages are written.
-/

namespace Bibliography

/-- How messages are logged. -/
structure LogSettings where
  level : Log.Level
  /-- Whether messages also go to a file. -/
  toFile : Bool
  /-- The directory of log files. -/
  directory : String
  deriving DecidableEq, Repr

/-- Where the library is. -/
structure LibrarySettings where
  path : String
  /-- The environment variable that has been asked for another path. -/
  pathVariable : String
  deriving DecidableEq, Repr

/-- What a search does when nothing else is asked for. -/
structure SearchSettings where
  sort : Order.Criterion
  order : Order.Direction
  /-- How many records to show; zero for all. -/
  limit : Nat
  deriving DecidableEq, Repr

/-- How pages are written. -/
structure OutputSettings where
  format : Output.Format
  /-- Where JSON is saved; it is printed if this is empty. -/
  baseDir : String
  deriving DecidableEq, Repr

/-- The settings of a run. -/
structure Settings where
  log : LogSettings
  library : LibrarySettings
  search : SearchSettings
  output : OutputSettings
  deriving DecidableEq, Repr

/-- The values of the environment, by name. -/
abbrev Environment := String → Option String

/-- Why settings are refused. A key is the name of a section, a dot and the
name of a setting. -/
inductive SettingsError where
  /-- Something that has to be set is missing. -/
  | missing (key : String)
  /-- A section is no object. -/
  | notObject (name : String)
  /-- The value is no text. -/
  | notText (key : String)
  /-- The value is neither true nor false. -/
  | notFlag (key : String)
  /-- The value is no integer. -/
  | notInteger (key : String)
  /-- The value is none of the choices. -/
  | notAmong (key : String) (choices : List String)
  /-- There is nothing of the name to sort by. -/
  | unknownSort (e : Order.NameError)
  /-- Messages go to a file, in a directory without a name. -/
  | noLogDirectory
  /-- The path of the library is blank. -/
  | noLibraryPath
  /-- The limit is negative. -/
  | negativeLimit
  deriving DecidableEq, Repr

end Bibliography
