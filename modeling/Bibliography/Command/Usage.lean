import Bibliography.Command.Arguments
import Bibliography.Order.Criterion
import Bibliography.Output.Writer
/-!
# Usage

How commands are used: the pages of help, and what is reported when a
command is used in another way.
-/

namespace Bibliography.Command

/-- The commands: the group itself, and the one command in it. -/
inductive Name where
  | group
  | search
  deriving DecidableEq, Repr

namespace Name

/-- How a command is called. -/
def path : Name → String
  | group => "cli"
  | search => "cli search"

/-- The line that shows what follows the name of a command. -/
def usage : Name → String
  | group => "Usage: cli [OPTIONS] COMMAND [ARGS]..."
  | search => "Usage: cli search [OPTIONS] [QUERY]..."

end Name

/-- What is wrong with the value of an option. -/
inductive ValueProblem where
  /-- It is no integer. -/
  | notInteger (text : String)
  /-- It is a negative integer. -/
  | negative (n : Int)
  /-- It is none of the choices. -/
  | notAmong (text : String) (choices : List String)
  /-- There is a directory where a file should be. -/
  | isDirectory (text : String)
  /-- There is no such file. -/
  | noFile (text : String)
  /-- There is nothing of the name to sort by. -/
  | sort (e : Order.NameError)
  deriving DecidableEq, Repr

/-- What is reported. -/
def ValueProblem.message : ValueProblem → String
  | notInteger text => quoted text ++ " is not a valid integer range."
  | negative n => Number.intText n ++ " is not in the range x>=0."
  | notAmong text choices =>
    quoted text ++ " is not one of " ++ ", ".intercalate (choices.map quoted) ++ "."
  | isDirectory text => "File " ++ quoted text ++ " is a directory."
  | noFile text => "File " ++ quoted text ++ " does not exist."
  | sort e => e.message

/-- In what way a command is used wrongly. -/
inductive Problem where
  | arguments (e : ArgumentError)
  | missingCommand
  | unknownCommand (name : String)
  | value (option : String) (p : ValueProblem)
  /-- The settings are refused, for the reason that the text gives. -/
  | settings (reason : String)
  deriving DecidableEq, Repr

/-- What is reported. -/
def Problem.message : Problem → String
  | arguments e => e.message
  | missingCommand => "Missing command."
  | unknownCommand name => "No such command " ++ quoted name ++ "."
  | value option p => "Invalid value for '" ++ option ++ "': " ++ p.message
  | settings reason => "Invalid value for --config: " ++ reason

/-- A wrong use of a command. -/
structure UsageError where
  command : Name
  problem : Problem
  deriving DecidableEq, Repr

/-- The screen that is shown. -/
def UsageError.screen (e : UsageError) : String :=
  Output.line (e.command.usage ++ "\nTry '" ++ e.command.path ++ " --help' for help.\n") ++
    Output.line ("Error: " ++ e.problem.message)

/-! ## Help -/

/-- The lines of a page of help. -/
def Name.helpLines : Name → List String
  | group => [
    group.usage,
    "",
    "  RefSearch: search a CSL-JSON reference library.",
    "",
    "Options:",
    "  --config FILE  YAML config file overriding the built-in defaults.",
    "  --help         Show this message and exit.",
    "",
    "Commands:",
    "  search  Search references and print matches."]
  | search => [
    search.usage,
    "",
    "  Search references and print matches.",
    "",
    "  Query words are joined with spaces; an empty query lists the library. Options",
    "  left out fall back to the ``search`` and ``output`` config sections.",
    "",
    "  Args:     ctx: Click context.",
    "",
    "  Raises:     click.Abort: When the search fails.",
    "",
    "Options:",
    "  --library FILE                  CSL-JSON library file (default: library.path",
    "                                  from config).",
    "  --sort TEXT                     Sort field or alias.",
    "  --order [asc|desc]              Sort order.",
    "  --limit INTEGER RANGE           Maximum results (0 = unlimited).  [x>=0]",
    "  --offset INTEGER RANGE          Results to skip.  [default: 0; x>=0]",
    "  --output [pretty|json|ids|uuid]",
    "                                  Output format.",
    "  --help                          Show this message and exit.",
    "",
    "  QUERY SYNTAX",
    "    Free text      machine learning       Search all fields (AND logic)",
    "    Phrase         \"machine learning\"     Exact phrase match",
    "    Field          author:Smith           Search specific field",
    "    Field+Phrase   author:\"John Smith\"    Field with phrase",
    "",
    "  FIELDS",
    "    author, title, year, doi, pmid, pmcid, url, keyword, tag",
    "",
    "  CASE SENSITIVITY",
    "    Consecutive uppercase (2+ letters) is case-sensitive:",
    "      AI    -> matches \"AI therapy\", not \"ai therapy\"",
    "      RNA   -> matches \"mRNA synthesis\", not \"mrna synthesis\"",
    "    Other text is case-insensitive:",
    "      api   -> matches \"API\", \"api\", \"Api\"",
    "",
    "  SORTING",
    "    --sort relevance|published|updated|created|author|title",
    "    aliases: rel, pub, mod, add",
    "",
    "  EXAMPLES (single quotes keep phrase quotes away from the shell)",
    "    $ refsearch search machine learning",
    "    $ refsearch search author:Smith year:2020",
    "    $ refsearch search '\"machine learning\"'",
    "    $ refsearch search 'author:\"John Smith\"' title:introduction",
    "    $ refsearch search tag:review --sort published --order desc",
    "    $ refsearch search AI therapy",
    "    $ refsearch search doi:10.1000/xyz123 --output json"]

/-- The page of help of a command. -/
def Name.help (name : Name) : String :=
  String.join (name.helpLines.map (· ++ "\n"))

end Bibliography.Command
