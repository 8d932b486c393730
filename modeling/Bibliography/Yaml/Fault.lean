import Bibliography.Crash
import Bibliography.Text.Numeral
/-!
# What is wrong with a document

Most faults are breaches of the grammar, or of the rules for tags, anchors
and keys, and are not told apart. The others are values that do not have
the form that their tag asks for. Who has a document loaded is prepared for
some of them, and all else is a crash (`LoadFault`).
-/

namespace Bibliography.Yaml

/-- Why a date or a time of day does not exist. -/
inductive DateFault where
  | year (n : Nat)
  | month
  | day
  | hour
  | minute
  | second
  /-- The distance in seconds from universal time is a day or more. -/
  | zone (seconds : Int)
  deriving DecidableEq, Repr

/-- What is wrong with a document. -/
inductive Fault where
  /-- A rule of the grammar, or one for tags, anchors and keys, is broken. -/
  | malformed
  /-- An escape gives a number that is no character. -/
  | noCharacter (code : Nat)
  | numeral (e : NumeralError)
  /-- The text is no real number. -/
  | notReal (text : String)
  /-- There is nothing to read as a number. -/
  | emptyNumber
  /-- A weight in a number of base sixty is beyond all real numbers. -/
  | tooLarge
  /-- The text is no word for true or false. -/
  | notFlag (text : String)
  /-- The text is no date or moment. -/
  | notDate (text : String)
  /-- A mapping is no date or moment, whatever its own value is. -/
  | mappingAsDate
  /-- The date or moment does not exist. -/
  | date (e : DateFault)
  deriving DecidableEq, Repr

/-- A length of time by its days and seconds, leaving out what is zero. -/
def DateFault.lengthText (seconds : Int) : String :=
  let days := seconds.fdiv 86400
  let rest := seconds.fmod 86400
  let parts := (if days = 0 then [] else ["days=" ++ Number.intText days]) ++
    (if rest = 0 then [] else ["seconds=" ++ Number.intText rest])
  ", ".intercalate parts

/-- What is reported. -/
def DateFault.message : DateFault → String
  | year n => "year " ++ Number.intText n ++ " is out of range"
  | month => "month must be in 1..12"
  | day => "day is out of range for month"
  | hour => "hour must be in 0..23"
  | minute => "minute must be in 0..59"
  | second => "second must be in 0..59"
  | zone seconds =>
    "offset must be a timedelta strictly between -timedelta(hours=24) and " ++
      "timedelta(hours=24), not datetime.timedelta(" ++ lengthText seconds ++ ")"

/-- What is reported. -/
def Fault.message : Fault → String
  | malformed => "the text is no document"
  | noCharacter _ => "chr() arg not in range(0x110000)"
  | numeral e => e.message
  | notReal text => "could not convert string to float: " ++ quoted text
  | emptyNumber => "string index out of range"
  | tooLarge => "int too large to convert to float"
  | notFlag text => quoted text
  | notDate text => "no date: " ++ quoted text
  | mappingAsDate => "expected string or bytes-like object, got 'list'"
  | date e => e.message

/-- Why a document is not loaded. -/
inductive LoadFault where
  /-- A value in it is refused, for a reason. -/
  | refused (reason : String)
  | crashed (c : Crash)
  deriving DecidableEq, Repr

/-- What is reported. -/
def LoadFault.message : LoadFault → String
  | refused reason => reason
  | crashed c => c.message

/-- What a fault is to who has the document loaded. -/
def Fault.toLoadFault (f : Fault) : LoadFault :=
  match f with
  | .malformed => .crashed ⟨"YAMLError", f.message⟩
  | .noCharacter code =>
    if code < 0x80000000 then .refused f.message else .crashed ⟨"OverflowError", f.message⟩
  | .emptyNumber => .crashed ⟨"IndexError", f.message⟩
  | .tooLarge => .crashed ⟨"OverflowError", f.message⟩
  | .notFlag _ => .crashed ⟨"KeyError", f.message⟩
  | .notDate _ => .crashed ⟨"AttributeError", f.message⟩
  | .numeral _ | .notReal _ | .mappingAsDate | .date _ => .refused f.message

end Bibliography.Yaml
