import Bibliography.Calendar.Reader
import Bibliography.File.Access
import Bibliography.Order.Criterion
import Bibliography.Output.Writer
import Bibliography.Settings.Document
/-!
# What surrounds a command

The command line leaves much to others: its arguments are taken apart, the
environment is completed, and documents and timestamps are read by libraries of
their own. What it asks of them is gathered in `Surroundings`, and how their
work can end is all that is known of it.
-/

namespace Bibliography.Command

/-- The name of the search command. Its log and what it saves go by it too. -/
def searchName : String := "search"

/-- What the arguments of the group come to: the file with settings, if one is
named, and what follows the name of the search command. -/
structure GroupCall where
  config : Option Path
  rest : List String
  deriving DecidableEq, Repr

/-- What is asked of a search on top of the settings. -/
structure SearchOptions where
  library : Option Path := none
  sort : Option Order.Criterion := none
  order : Option Order.Direction := none
  limit : Option Nat := none
  offset : Nat := 0
  format : Option Output.Format := none
  deriving DecidableEq, Repr

/-- What the arguments of the search command come to. -/
structure SearchCall where
  options : SearchOptions
  words : List String
  deriving DecidableEq, Repr

/-- How reading the arguments of a command ends. -/
inductive Reply (α : Type) where
  /-- The command is called. -/
  | call (a : α)
  /-- A page of help is shown instead. -/
  | help (page : String)
  /-- The command is used wrongly, as a screen tells. -/
  | misuse (screen : String)
  | crashed (c : Crash)
  deriving Repr

/-- **What a command asks of its surroundings.** -/
class Surroundings extends Calendar.Reader where
  /-- Reads the arguments of the group. -/
  readGroup : List String → Inquiry (Reply GroupCall)
  /-- Reads the arguments of the search command, given what the names to sort by
  stand for. -/
  readSearch : (String → Except Order.NameError Order.Criterion) → List String →
    Inquiry (Reply SearchCall)
  /-- The screen for settings that are refused for a reason. -/
  refusal : String → String
  /-- Adds to the environment what a file says about variables. -/
  environment : Environment → Inquiry (Except Crash Environment)
  /-- Loads a document. -/
  document : String → Except Yaml.LoadFault Json

end Bibliography.Command
