import Bibliography.Command.Surroundings
import Bibliography.Log.Basic
/-!
# A session

While a command runs, it logs what it does and prints what it finds. A
search that fails is logged and given up; nothing has been printed then.
-/

namespace Bibliography.Command

/-- What has come of a command so far. -/
structure Transcript where
  log : Log := .fresh
  /-- What has been printed. -/
  out : String := ""
  /-- What has been shown beside it: lines of the log and reports. -/
  err : String := ""

/-- Why a search is given up. -/
inductive Failure where
  | load (e : LoadError)
  | search (e : SearchError)
  | file (e : FileError)

/-- What is reported. -/
def Failure.message : Failure → String
  | load e => e.message
  | search e => e.message
  | file e => e.message

/-- Something done in a session. -/
abbrev Session := StateT Transcript Access

/-- Something done in a session that may fail. What has been done before it
fails stays done. -/
abbrev Attempt := ExceptT Failure Session

namespace Session

/-- Does something with files. -/
def access {α : Type} (a : Access α) : Session α := fun t => do
  return (← a, t)

/-- Prints a text. -/
def print (text : String) : Session Unit :=
  modify fun t => { t with out := t.out ++ text }

/-- Shows a text beside what is printed. -/
def report (text : String) : Session Unit :=
  modify fun t => { t with err := t.err ++ text }

/-- Logs a message. -/
def say (level : Log.Level) (parts : List String) : Session Unit := do
  report (← access ((← get).log.record level.number (String.join parts)))

end Session

namespace Attempt

open Session

/-- Does something with files. -/
def access {α : Type} (a : Access α) : Attempt α :=
  ExceptT.lift (Session.access a)

/-- Takes a result, or fails for its reason. -/
def orFail {ε α : Type} (reason : ε → Failure) : Except ε α → Attempt α
  | .ok a => return a
  | .error e => throw (reason e)

/-! ## The search command -/

/-- What is searched for in the end: what is asked for goes before what is set. -/
def planOf (settings : SearchSettings) (options : SearchOptions) (words : List String) : Plan :=
  { query := " ".intercalate words
    criterion := options.sort.getD settings.sort
    direction := options.order.getD settings.order
    limit := options.limit.getD settings.limit
    offset := options.offset }

/-- Loads the library. -/
def load (path : Path) : Attempt (List Record) := do
  let library ← orFail .load (Library.load path.toString (← Attempt.access (Access.lookAt path)))
  let count := Number.intText library.length
  say .debug ["Parsed ", count, " library items from ", path.toString]
  say .info ["Loaded ", count, " references from ", path.toString]
  return library

/-- What a query finds. -/
def find (library : List Record) (query : String) : Attempt Findings := do
  if isBlankText query then
    say .debug ["Blank query, listing ", Number.intText library.length, " references"]
    orFail (.search ∘ .numeral) (Findings.ofQuery library query)
  else
    let count := Number.intText (Query.tokenize query).length
    say .debug ["Tokenized query ", quoted query, " into ", count, " tokens"]
    let found ← orFail (.search ∘ .numeral) (Findings.ofQuery library query)
    say .debug ["Query ", quoted query, ": ", count, " tokens, ", Number.intText found.count,
      " matches"]
    return found

/-- Searches the library. -/
def search [Calendar.Reader] (library : List Record) (plan : Plan) : Attempt SearchPage := do
  say .info ["query=", quoted plan.query, " sort=", plan.criterion.name, " order=",
    plan.direction.name, " limit=", Number.intText plan.limit, " offset=",
    Number.intText plan.offset]
  let found ← find library plan.query
  let found ← orFail .search (found.arrange plan.criterion plan.direction)
  let page := SearchPage.of found plan.limit plan.offset
  say .info ["Matched ", Number.intText page.total, " of ", Number.intText library.length,
    " references"]
  say .info ["Found ", Number.intText page.total, " references (showing ",
    Number.intText page.items.length, ")"]
  return page

/-- Saves a text in a directory, under the name of an action and a stamp. -/
def save (directory : Path) (action stamp text : String) : Attempt Unit := do
  orFail .file (← Attempt.access (Access.directory directory))
  let path := directory.append (action ++ "_" ++ stamp ++ ".json")
  orFail .file (← Attempt.access (Access.save path text))
  say .info ["JSON saved to ", path.toString]

/-- Writes a page that is the only one. -/
def write (settings : OutputSettings) (format : Output.Format) (page : SearchPage)
    (query action stamp : String) : Attempt Unit := do
  let (printed, writer) ←
    orFail (.search ∘ .numeral) ((Output.Writer.start format settings.baseDir).take page query)
  print printed
  match writer.finish with
  | .print text => print text
  | .save directory text => save directory action stamp text

/-- Searches the library and writes what is found. -/
def searchAndWrite [Calendar.Reader] (settings : Settings) (options : SearchOptions)
    (words : List String) (action stamp : String) : Attempt Unit := do
  let library ← load (options.library.getD (.ofString settings.library.path))
  let plan := planOf settings.search options words
  let page ← search library plan
  write settings.output (options.format.getD settings.output.format) page plan.query action stamp

end Attempt

end Bibliography.Command
