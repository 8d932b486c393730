/-!
# Arguments of a command

Options start with a dash and have names; a value follows some of them, as
an argument of its own or behind an equals sign. All else is a word. Two
dashes alone end the options.
-/

namespace Bibliography.Command

/-- What the arguments of a command look like. -/
structure Form where
  /-- The names of the options, and whether a value follows each. -/
  options : List (String × Bool)
  /-- Whether options may stand behind words. -/
  mixed : Bool

/-- The arguments of a command. -/
structure Arguments where
  /-- The options as they come, with their values; an option that no value
  follows has an empty one. -/
  options : List (String × String)
  words : List String
  deriving DecidableEq, Repr

/-- Why arguments cannot be read. -/
inductive ArgumentError where
  | unknownOption (name : String)
  | missingValue (name : String)
  /-- No value follows the option, but one is given. -/
  | needlessValue (name : String)
  deriving DecidableEq, Repr

/-- What is reported. -/
def ArgumentError.message : ArgumentError → String
  | unknownOption name => "No such option: " ++ name
  | missingValue name => "Option '" ++ name ++ "' requires an argument."
  | needlessValue name => "Option '" ++ name ++ "' does not take a value."

namespace Arguments

/-- Whether an argument has the look of an option. A dash alone is a word. -/
def isOption (arg : String) : Bool :=
  match arg.toList with
  | '-' :: _ :: _ => true
  | _ => false

/-- The name of an option, and its value if an equals sign is in it. -/
def splitValue (arg : String) : String × Option String :=
  let cs := arg.toList
  (String.ofList (cs.takeWhile (· != '=')),
    match cs.dropWhile (· != '=') with
    | _ :: value => some (String.ofList value)
    | [] => none)

/-- An unknown option. One with a single dash is called by its first
letter. -/
def unknown (name : String) : ArgumentError :=
  match name.toList with
  | '-' :: '-' :: _ => .unknownOption name
  | dash :: letter :: _ => .unknownOption (String.ofList [dash, letter])
  | _ => .unknownOption name

/-- The arguments with one more option in front. -/
def withOption (name value : String) (a : Arguments) : Arguments :=
  { a with options := (name, value) :: a.options }

/-- The arguments with one more word in front. -/
def withWord (word : String) (a : Arguments) : Arguments :=
  { a with words := word :: a.words }

/-- Reads arguments. -/
def read (form : Form) : List String → Except ArgumentError Arguments
  | [] => .ok ⟨[], []⟩
  | arg :: rest =>
    if arg = "--" then .ok ⟨[], rest⟩
    else if isOption arg then
      match splitValue arg with
      | (name, attached) =>
        match form.options.lookup name, attached with
        | none, _ => .error (unknown name)
        | some true, some value => (read form rest).map (withOption name value)
        | some true, none =>
          match rest with
          | [] => .error (.missingValue name)
          | value :: rest => (read form rest).map (withOption name value)
        | some false, some _ => .error (.needlessValue name)
        | some false, none => (read form rest).map (withOption name "")
    else if form.mixed then (read form rest).map (withWord arg)
    else .ok ⟨[], arg :: rest⟩

/-- The names of the options that are given, in the order of their first
places. -/
def names (a : Arguments) : List String :=
  (a.options.map (·.1)).eraseDups

/-- The last value of an option. -/
def value? (a : Arguments) (name : String) : Option String :=
  a.options.reverse.lookup name

/-- Whether an option is given. -/
def has (a : Arguments) (name : String) : Bool :=
  (a.value? name).isSome

end Arguments

end Bibliography.Command
