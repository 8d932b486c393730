import Bibliography.File.Place
import Bibliography.Json.Overlay
import Bibliography.Settings.Reader
import Bibliography.Yaml.Document
/-!
# Settings from documents

Settings are written in a document, and a file may be laid over the built-in
one. A document that says nothing stands for no settings at all. How
documents are loaded is nothing to the settings, so it is left open.
-/

namespace Bibliography

/-- Why settings cannot be read from documents. -/
inductive ConfigError where
  | document (f : Yaml.LoadFault)
  /-- A document says something that is no mapping. -/
  | rootNotMapping
  | file (e : ReadError)
  | settings (e : SettingsError)
  deriving DecidableEq, Repr

/-- What is reported. -/
def ConfigError.message : ConfigError → String
  | document f => f.message
  | rootNotMapping => "Config root must be a mapping/object"
  | file e => e.message
  | settings e => e.message

namespace Settings

/-- The built-in document. -/
def builtIn : String :=
  "\nlog:\n" ++
  "  level: WARNING\n" ++
  "  to_file: false\n" ++
  "  dir: log\n" ++
  "\nlibrary:\n" ++
  "  path: library.json\n" ++
  "  path_env: REFSEARCH_LIBRARY\n" ++
  "\nsearch:\n" ++
  "  sort: relevance\n" ++
  "  order: desc\n" ++
  "  limit: 0\n" ++
  "\noutput:\n" ++
  "  format: pretty\n" ++
  "  base_dir: \"\"\n"

section Loading

variable (load : String → Except Yaml.LoadFault Json)

/-- What a document says about settings. -/
def membersOf (text : String) : Except ConfigError Json.Members := do
  let json ← (load text).mapError .document
  if json.isTruthy then
    match json with
    | .obj members => return members
    | _ => throw .rootNotMapping
  return []

/-- What one document says about settings, or two where what stands at a place
is laid over the first one. -/
def layered (first : String) (second : Option Place) : Except ConfigError Json.Members := do
  let lower ← membersOf load first
  match second with
  | none => return lower
  | some place => return lower.overlay (← membersOf load (← place.text.mapError .file))

/-- The settings of one document or two in an environment. -/
def ofDocuments (env : Environment) (first : String) (second : Option Place) :
    Except ConfigError Settings := do
  (ofMembers env (← layered load first second)).mapError .settings

end Loading

/-- What a document says, as documents are loaded. -/
def ofDocument (text : String) : Except ConfigError Json.Members :=
  membersOf Yaml.load text

end Settings

end Bibliography
