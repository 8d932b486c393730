import Bibliography.Calendar.Notations
import Bibliography.Command.Surroundings
import Bibliography.Command.Usage
/-!
# Options of the commands

The values of options are checked one after the other, in the order in which
the options are first given; of an option that is given again the last value
counts.
-/

namespace Bibliography.Command

/-- The option that shows a page of help. -/
def helpOption : String := "--help"

/-- What follows the group. Its options stand before the name of a command. -/
def groupForm : Form := ⟨[("--config", true), (helpOption, false)], false⟩

/-- What follows the search command. -/
def searchForm : Form :=
  ⟨[("--library", true), ("--sort", true), ("--order", true), ("--limit", true),
    ("--offset", true), ("--output", true), (helpOption, false)], true⟩

/-! ## Values -/

/-- Why the value of an option is not taken. -/
inductive ValueFault where
  | problem (p : ValueProblem)
  | crash (c : Crash)

/-- Whether a text can name nothing but a directory. -/
def namesDirectory (text : String) : Bool :=
  match text.toList.reverse with
  | '/' :: _ => true
  | '.' :: '/' :: _ => true
  | _ => false

/-- What stands where a text leads to. A text with a zero in it is no name. -/
def placeOf (text : String) : Inquiry (Except Crash Place) := do
  if text.toList.contains '\x00' then return .error ⟨"ValueError", "embedded null byte"⟩
  if text.isEmpty then return .ok .missing
  match ← Inquiry.lookAt (.ofString text) with
  | .file data => return .ok (if namesDirectory text then .missing else .file data)
  | .directory => return .ok .directory
  | _ => return .ok .missing

/-- The path of a file with settings, which has to be there. -/
def readConfigPath (text : String) : Inquiry (Except ValueFault Path) := do
  match ← placeOf text with
  | .error c => return .error (.crash c)
  | .ok .directory => return .error (.problem (.isDirectory text))
  | .ok (.file _) => return .ok (.ofString text)
  | .ok _ => return .error (.problem (.noFile text))

/-- The path of a library, which need not be there. -/
def readLibraryPath (text : String) : Inquiry (Except ValueFault Path) := do
  match ← placeOf text with
  | .error c => return .error (.crash c)
  | .ok .directory => return .error (.problem (.isDirectory text))
  | .ok _ => return .ok (.ofString text)

/-- A number that is not negative. -/
def readCount (text : String) : Except ValueFault Nat :=
  match Text.readInt? text.toList with
  | none => .error (.problem (.notInteger text))
  | some n => if n < 0 then .error (.problem (.negative n)) else .ok n.toNat

/-- One of a list of things that have names. -/
def readChoice {α : Type} (all : List α) (name : α → String) (text : String) :
    Except ValueFault α :=
  match all.find? (name · == text) with
  | some a => .ok a
  | none => .error (.problem (.notAmong text (all.map name)))

/-- The options with the value of one more. -/
def SearchOptions.add (resolve : String → Except Order.NameError Order.Criterion)
    (o : SearchOptions) (name text : String) : Inquiry (Except ValueFault SearchOptions) := do
  match name with
  | "--library" => return (← readLibraryPath text).map fun p => { o with library := some p }
  | "--sort" =>
    return ((resolve text).mapError (.problem ∘ .sort)).map fun c => { o with sort := some c }
  | "--order" =>
    return (readChoice Order.Direction.all Order.Direction.name text).map fun d =>
      { o with order := some d }
  | "--limit" => return (readCount text).map fun n => { o with limit := some n }
  | "--offset" => return (readCount text).map fun n => { o with offset := n }
  | "--output" =>
    return (readChoice Output.Format.all Output.Format.name text).map fun f =>
      { o with format := some f }
  | _ => return .ok o

/-! ## Commands -/

/-- A wrong use of a command. -/
def misused {α : Type} (command : Name) (problem : Problem) : Reply α :=
  .misuse (UsageError.screen ⟨command, problem⟩)

/-- What comes of a value that is not taken. -/
def ValueFault.reply {α : Type} (command : Name) (option : String) : ValueFault → Reply α
  | problem p => misused command (.value option p)
  | crash c => .crashed c

/-- Reads the named options of a search one after the other. -/
def SearchOptions.addAll (resolve : String → Except Order.NameError Order.Criterion)
    (a : Arguments) (o : SearchOptions) : List String → Inquiry (Reply SearchCall)
  | [] => return .call ⟨o, a.words⟩
  | name :: rest => do
    match ← o.add resolve name ((a.value? name).getD "") with
    | .error fault => return fault.reply .search name
    | .ok o => addAll resolve a o rest

/-- Reads the arguments of the search command. -/
def readSearch (resolve : String → Except Order.NameError Order.Criterion) (args : List String) :
    Inquiry (Reply SearchCall) :=
  match Arguments.read searchForm args with
  | .error e => return misused .search (.arguments e)
  | .ok a =>
    if a.has helpOption then return .help Name.search.help
    else SearchOptions.addAll resolve a {} a.names

/-- Whether a word starts with a sign, as options do. The group shows its help
for a word of this kind that is no command. -/
def startsWithSign (word : String) : Bool :=
  match word.toList with
  | [] => false
  | c :: _ => Text.category c != .letter && Text.category c != .number

/-- What the words behind the options of the group come to. -/
def readWords (config : Option Path) : List String → Reply GroupCall
  | [] => misused .group .missingCommand
  | name :: rest =>
    if name = searchName then .call ⟨config, rest⟩
    else if startsWithSign name then .help Name.group.help
    else misused .group (.unknownCommand name)

/-- Reads the arguments of the group. -/
def readGroup (args : List String) : Inquiry (Reply GroupCall) := do
  if args.isEmpty then return .help Name.group.help
  match Arguments.read groupForm args with
  | .error e => return misused .group (.arguments e)
  | .ok a =>
    if a.has helpOption then return .help Name.group.help
    match a.value? "--config" with
    | none => return readWords none a.words
    | some text =>
      match ← readConfigPath text with
      | .error fault => return fault.reply .group "--config"
      | .ok path => return readWords (some path) a.words

/-- The surroundings that a program runs in, on a day. No file has variables for
the environment. -/
@[reducible] def Surroundings.onDay (today : Calendar.Date) : Surroundings where
  toReader := .onDay today
  readGroup := Command.readGroup
  readSearch := Command.readSearch
  refusal reason := UsageError.screen ⟨.group, .settings reason⟩
  environment env := return .ok env
  document := Yaml.load

end Bibliography.Command
