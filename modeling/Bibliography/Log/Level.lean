import Bibliography.Text.Case
/-!
# Levels of importance

Messages have a number that says how important they are. Five numbers have
names and a mark of four letters; every other number shares one mark. A
*threshold* is the least number that is let through; it is given by a name.
-/

namespace Bibliography.Log

/-- A level with a name. -/
inductive Level where
  | debug
  | info
  | warning
  | error
  | critical
  deriving DecidableEq, Repr

namespace Level

/-- All levels, from the least to the most important. -/
def all : List Level := [debug, info, warning, error, critical]

/-- The number of a level. -/
def number : Level → Nat
  | debug => 10
  | info => 20
  | warning => 30
  | error => 40
  | critical => 50

/-- The name of a level. -/
def name : Level → String
  | debug => "DEBUG"
  | info => "INFO"
  | warning => "WARNING"
  | error => "ERROR"
  | critical => "CRITICAL"

/-- A second name, if there is one. -/
def alias? : Level → Option String
  | warning => some "WARN"
  | critical => some "FATAL"
  | _ => none

/-- The four letters that a line in the log starts with. -/
def mark : Level → String
  | debug => "DEBG"
  | info => "INFO"
  | warning => "WARN"
  | error => "ERRO"
  | critical => "ERRO"

/-- The level of a name, in capital letters. -/
def ofName? (name : String) : Option Level :=
  all.find? (·.name == name)

end Level

/-- The mark of a number: that of the level with this number, or the first
four letters of the word for any other. -/
def mark (number : Int) : String :=
  match Level.all.find? fun l => (l.number : Int) == number with
  | some l => l.mark
  | none => "Leve"

/-- Two names that are reserved for other settings of a log and stand for no
threshold. -/
inductive ReservedName where
  /-- The layout of a line. -/
  | layout
  /-- The table of styles that a layout is written in. -/
  | styles
  deriving DecidableEq, Repr

/-- A reserved name in capital letters. -/
def ReservedName.name : ReservedName → String
  | layout => "BASIC_FORMAT"
  | styles => "_STYLES"

/-- The threshold of a name in upper or lower case. `NOTSET` lets everything
through as far as a threshold goes; no name, and every unknown one, is that
of information. -/
def threshold (name : Option String) : Except ReservedName Nat :=
  let upper := uppered (name.getD "")
  if upper = ReservedName.layout.name then .error .layout
  else if upper = ReservedName.styles.name then .error .styles
  else if upper = "NOTSET" then .ok 0
  else match Level.all.find? fun l => l.name == upper || l.alias? == some upper with
    | some l => .ok l.number
    | none => .ok Level.info.number

end Bibliography.Log
