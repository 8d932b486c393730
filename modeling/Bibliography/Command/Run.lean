import Bibliography.Command.Session
/-!
# Running a command

A command ends well, or it is used wrongly, or it is given up. An error that
nothing is made of leaves the command and ends it too.
-/

namespace Bibliography.Command

/-- An error that leaves a command. -/
inductive Escape where
  /-- Reading the arguments has crashed. -/
  | arguments (c : Crash)
  /-- Completing the environment has crashed. -/
  | environment (c : Crash)
  | config (e : ConfigError)
  | log (e : LogError)
  deriving DecidableEq, Repr

/-- How a command ends. -/
inductive Ending where
  | finished
  | misused
  | aborted
  | escaped (e : Escape)
  deriving DecidableEq, Repr

/-- The number that a command ends with. -/
def Ending.code : Ending → Nat
  | finished => 0
  | misused => 2
  | aborted => 1
  | escaped _ => 1

/-- What comes of a command. -/
structure Outcome where
  ending : Ending
  out : String
  err : String
  deriving DecidableEq, Repr

namespace Outcome

/-- A command that has only printed a text. -/
def printed (text : String) : Outcome := ⟨.finished, text, ""⟩

/-- A command that is used wrongly. -/
def misused (screen : String) : Outcome := ⟨.misused, "", screen⟩

/-- A command that an error has left. -/
def escaped (e : Escape) : Outcome := ⟨.escaped e, "", ""⟩

end Outcome

/-- What a name to sort by stands for, in any case and with blanks around it. -/
def resolveSort (text : String) : Except Order.NameError Order.Criterion :=
  Order.Criterion.ofName (lowered (stripped text))

section Running

variable [Surroundings]

/-- Sets up the log, searches, and reports what fails. -/
def searchSession (settings : Settings) (options : SearchOptions) (words : List String)
    (stamp : String) : Session Ending := do
  let request : LogRequest :=
    { level := some settings.log.level.name, action := some searchName
      toFile := settings.log.toFile, directory := some settings.log.directory }
  let (path, log) ← Session.access ((← get).log.configure request stamp)
  modify fun t => { t with log }
  match path with
  | .error e => return .escaped (.log e)
  | .ok path =>
    if let some path := path then
      Session.say .debug ["Writing log file ", path.toString]
    match ← (Attempt.searchAndWrite settings options words searchName stamp).run with
    | .ok () => return .finished
    | .error e =>
      Session.say .error ["Search failed: ", e.message]
      Session.report "Aborted!\n"
      return .aborted

/-- Goes on with what arguments come to, if that is a call. -/
def onCall {α : Type} (reply : Reply α) (next : α → Access Outcome) : Access Outcome :=
  match reply with
  | .call a => next a
  | .help page => return .printed page
  | .misuse screen => return .misused screen
  | .crashed c => return .escaped (.arguments c)

/-- Runs the search command with its arguments. -/
def runSearch (settings : Settings) (stamp : String) (args : List String) : Access Outcome := do
  onCall (← Surroundings.readSearch resolveSort args) fun call => do
    let (ending, t) ← (searchSession settings call.options call.words stamp).run {}
    return ⟨ending, t.out, t.err⟩

/-- What stands at the path of a file with settings, if one is named. -/
def lookAtConfig : Option Path → Inquiry (Option Place)
  | none => return none
  | some path => return some (← Inquiry.lookAt path)

/-- Whether refused settings count as a wrong use of the command; other errors
leave it. -/
def isMisuse : ConfigError → Bool
  | .document (.refused _) => true
  | .document (.crashed _) => false
  | .file .notText | .file (.barred ⟨.noName _, _⟩) => true
  | .file _ => false
  | .rootNotMapping | .settings _ => true

/-- Reads the settings, and goes on with them unless they are refused. -/
def withSettings (env : Environment) (config : Option Path) (next : Settings → Access Outcome) :
    Access Outcome := do
  let place ← lookAtConfig config
  match Settings.ofDocuments Surroundings.document env Settings.builtIn place with
  | .ok settings => next settings
  | .error e =>
    if isMisuse e then return .misused (Surroundings.refusal e.message)
    return .escaped (.config e)

/-- Runs the command line. The environment and the stamp are those of the
machine; the name of the command is looked up before the settings are read,
and its arguments after that. -/
def run (env : Environment) (stamp : String) (args : List String) : Access Outcome := do
  onCall (← Surroundings.readGroup args) fun call => do
    match ← Surroundings.environment env with
    | .error c => return .escaped (.environment c)
    | .ok env => withSettings env call.config fun settings => runSearch settings stamp call.rest

/-- The variable of the environment that running the command line looks at, if
it comes to that. -/
def variableName? (args : List String) : Access (Option String) := do
  match ← Surroundings.readGroup args with
  | .call call =>
    let place ← lookAtConfig call.config
    match Settings.layered Surroundings.document Settings.builtIn place with
    | .error _ => return none
    | .ok root =>
      return ((Settings.Section.required root "library").bind Settings.pathVariable).toOption
  | _ => return none

end Running

end Bibliography.Command
