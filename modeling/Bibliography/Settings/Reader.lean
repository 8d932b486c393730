import Bibliography.Json.Display
import Bibliography.Settings.Basic
import Bibliography.Text.Blank
/-!
# Reading settings

Settings are read from an object with one member for each section. All four
sections are read first and their values checked against each other
afterwards, so the first wrong value is reported before the first value out
of bounds.
-/

namespace Bibliography

/-- What is reported. -/
def SettingsError.message : SettingsError → String
  | missing key => "Missing required config: " ++ key
  | notObject name => name ++ " must be an object"
  | notText key => key ++ " must be a string"
  | notFlag key => key ++ " must be a boolean"
  | notInteger key => key ++ " must be an integer"
  | notAmong key choices =>
    key ++ " must be one of " ++ (Json.arr ((choices.mergeSort (· ≤ ·)).map .str)).shown
  | unknownSort e => "search.sort: " ++ e.message
  | noLogDirectory => "log.dir must not be empty when log.to_file=true"
  | noLibraryPath => "library.path must not be empty"
  | negativeLimit => "search.limit must be 0 (unlimited) or positive"

namespace Settings

/-! ## Single values -/

/-- A part of the settings. -/
structure Section where
  name : String
  members : Json.Members

namespace Section

/-- The section of a name, if it is there; null is no section. -/
def find? (root : Json.Members) (name : String) : Except SettingsError (Option Section) :=
  match Json.Members.get? name root with
  | none | some .null => .ok none
  | some (.obj members) => .ok (some ⟨name, members⟩)
  | some _ => .error (.notObject name)

/-- A section that has to be there. -/
def required (root : Json.Members) (name : String) : Except SettingsError Section := do
  match ← find? root name with
  | some s => return s
  | none => throw (.missing name)

/-- A section that may be missing. -/
def optional (root : Json.Members) (name : String) : Except SettingsError Section := do
  return (← find? root name).getD ⟨name, []⟩

/-- The key of a setting in this section. -/
def key (s : Section) (setting : String) : String :=
  s.name ++ "." ++ setting

/-- The value of a setting, or another one if it is not set. -/
def value (s : Section) (setting : String) (fallback : Json) : Json :=
  (Json.Members.get? setting s.members).getD fallback

/-- The text of a setting. -/
def text (s : Section) (setting fallback : String) : Except SettingsError String :=
  match s.value setting (.str fallback) with
  | .str t => .ok t
  | _ => .error (.notText (s.key setting))

/-- The text of a setting that has to be there. -/
def requiredText (s : Section) (setting : String) : Except SettingsError String :=
  match Json.Members.get? setting s.members with
  | some (.str t) => .ok t
  | some _ => .error (.notText (s.key setting))
  | none => .error (.missing (s.key setting))

/-- A setting that is true or false. -/
def flag (s : Section) (setting : String) (fallback : Bool) : Except SettingsError Bool :=
  match s.value setting (.bool fallback) with
  | .bool b => .ok b
  | _ => .error (.notFlag (s.key setting))

/-- A setting that is an integer. -/
def integer (s : Section) (setting : String) (fallback : Int) : Except SettingsError Int :=
  match s.value setting (.int fallback) with
  | .int n => .ok n
  | _ => .error (.notInteger (s.key setting))

/-- The name that a setting gives: in lower case, without white space at its
ends. -/
def choiceName (s : Section) (setting fallback : String) : Except SettingsError String :=
  (s.text setting fallback).map fun t => lowered (stripped t)

/-- One of a list of things that have names. -/
def choice {α : Type} (s : Section) (setting : String) (all : List α) (name : α → String)
    (fallback : α) : Except SettingsError α := do
  let given ← s.choiceName setting (name fallback)
  match all.find? (name · == given) with
  | some a => return a
  | none => throw (.notAmong (s.key setting) (all.map name))

end Section

/-! ## Sections -/

/-- What the log section holds, before its values are checked. -/
structure LogDraft where
  level : String
  toFile : Bool
  directory : String

/-- Reads the log section. -/
def readLog (root : Json.Members) : Except SettingsError LogDraft := do
  let s ← Section.required root "log"
  let level ← s.text "level" Log.Level.warning.name
  let toFile ← s.flag "to_file" false
  let directory ← s.text "dir" "log"
  return ⟨uppered level, toFile, directory⟩

/-- The path that the environment gives for a library: nothing if the name
of the variable or its value is blank. -/
def pathFrom (env : Environment) (variableName : String) : Option String :=
  if isBlankText variableName then none
  else
    let path := stripped ((env variableName).getD "")
    if path.isEmpty then none else some path

/-- The variable of the environment that a library section names. -/
def pathVariable (s : Section) : Except SettingsError String :=
  s.text "path_env" "REFSEARCH_LIBRARY"

/-- Reads the library section, where the environment goes before the path
that is set. -/
def readLibrary (env : Environment) (root : Json.Members) :
    Except SettingsError LibrarySettings := do
  let s ← Section.required root "library"
  let pathVariable ← pathVariable s
  let path ← s.requiredText "path"
  return ⟨(pathFrom env pathVariable).getD path, pathVariable⟩

/-- What the search section holds, before its values are checked. -/
structure SearchDraft where
  sort : Order.Criterion
  order : Order.Direction
  limit : Int

/-- Reads the search section. -/
def readSearch (root : Json.Members) : Except SettingsError SearchDraft := do
  let s ← Section.optional root "search"
  let sortName ← s.choiceName "sort" Order.Criterion.relevance.name
  let sort ← (Order.Criterion.ofName sortName).mapError .unknownSort
  let order ← s.choice "order" Order.Direction.all Order.Direction.name .descending
  let limit ← s.integer "limit" 0
  return ⟨sort, order, limit⟩

/-- Reads the output section. -/
def readOutput (root : Json.Members) : Except SettingsError OutputSettings := do
  let s ← Section.optional root "output"
  let format ← s.choice "format" Output.Format.all Output.Format.name .pretty
  let baseDir ← s.text "base_dir" ""
  return ⟨format, baseDir⟩

/-! ## Checks -/

/-- The log settings, if their level is known and their file has a place. -/
def checkLog (draft : LogDraft) : Except SettingsError LogSettings := do
  match Log.Level.ofName? draft.level with
  | none => throw (.notAmong "log.level" (Log.Level.all.map Log.Level.name))
  | some level =>
    if draft.toFile && isBlankText draft.directory then throw .noLogDirectory
    return ⟨level, draft.toFile, draft.directory⟩

/-- The library settings, if the library has a path. -/
def checkLibrary (library : LibrarySettings) : Except SettingsError LibrarySettings :=
  if isBlankText library.path then .error .noLibraryPath else .ok library

/-- The search settings, if the limit is not negative. -/
def checkSearch (draft : SearchDraft) : Except SettingsError SearchSettings :=
  if draft.limit < 0 then .error .negativeLimit
  else .ok ⟨draft.sort, draft.order, draft.limit.toNat⟩

/-- Reads the settings in an environment. -/
def ofMembers (env : Environment) (root : Json.Members) : Except SettingsError Settings := do
  let log ← readLog root
  let library ← readLibrary env root
  let search ← readSearch root
  let output ← readOutput root
  let log ← checkLog log
  let library ← checkLibrary library
  let search ← checkSearch search
  return ⟨log, library, search, output⟩

end Settings

end Bibliography
