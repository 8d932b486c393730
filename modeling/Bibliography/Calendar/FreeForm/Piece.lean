import Bibliography.Text.Blank
import Bibliography.Text.Case
import Bibliography.Text.Category
import Bibliography.Text.Digit
/-!
# Pieces of a date in free form

A text is cut into words, numbers, single spaces and other single
characters. Points inside words and numbers are cut out afterwards, unless
they are the decimal point of a number.
-/

namespace Bibliography.Calendar.FreeForm

/-- A piece of the text. -/
abbrev Piece := List Char

namespace Piece

def isLetter (c : Char) : Bool := Text.category c == .letter

def isDigit (c : Char) : Bool := Text.isDigitLike c

/-- What a piece has been so far. -/
inductive Kind where
  | word
  | number
  | dottedWord
  | dottedNumber

/-- Cuts at points and commas, which are pieces of their own. -/
def cutAtPoints : List Char → List Piece
  | [] => []
  | c :: rest =>
    if c == '.' || c == ',' then [c] :: cutAtPoints rest
    else match cutAtPoints rest with
      | (d :: word) :: more =>
        if d == '.' || d == ',' then [c] :: (d :: word) :: more else (c :: d :: word) :: more
      | more => [c] :: more

/-- Whether the kind allows points inside. -/
def Kind.isDotted : Kind → Bool
  | .dottedWord => true
  | .dottedNumber => true
  | _ => false

/-- The pieces of what was read as one run, given from its last character to
its first. Letters were read after the first character if `hasLetters`. -/
def finish (kind : Kind) (hasLetters : Bool) (read : List Char) : List Piece :=
  let run := read.reverse
  let cut := kind.isDotted && (hasLetters || 1 < run.count '.' ||
    (match read with | c :: _ => c == '.' || c == ',' | [] => false))
  match (if cut then cutAtPoints run else [run]), kind with
  | first :: more, .dottedNumber =>
    (if first.contains '.' then first else first.map fun c => if c == ',' then '.' else c) :: more
  | pieces, _ => pieces

/-- The kind of a run that goes on with a character, if it does. -/
def Kind.next? (kind : Kind) (read : List Char) (c : Char) : Option Kind :=
  let afterPoint := read.head? == some '.'
  match kind with
  | .word => if isLetter c then some .word else if c == '.' then some .dottedWord else none
  | .number =>
    if isDigit c then some .number
    else if c == '.' || (c == ',' && 2 ≤ read.length) then some .dottedNumber
    else none
  | .dottedWord =>
    if c == '.' || isLetter c then some .dottedWord
    else if isDigit c && afterPoint then some .dottedNumber
    else none
  | .dottedNumber =>
    if c == '.' || isDigit c then some .dottedNumber
    else if isLetter c && afterPoint then some .dottedWord
    else none

/-- Whether reading on in a run of this kind counts as reading letters. -/
def Kind.ofLetters : Kind → Bool
  | .word => true
  | .dottedWord => true
  | _ => false

/-- The run that is being read: its kind, whether letters were read in it, and
its characters from the last to the first. -/
abbrev Open := Kind × Bool × List Char

/-- The pieces of a run that ends. -/
def close : Option Open → List Piece
  | some (kind, hasLetters, read) => finish kind hasLetters read
  | none => []

/-- Starts with a character: pieces that are complete, and the run it opens. -/
def start (c : Char) : List Piece × Option Open :=
  if isLetter c then ([], some (.word, false, [c]))
  else if isDigit c then ([], some (.number, false, [c]))
  else if Text.isBlank c then ([[' ']], none)
  else ([[c]], none)

/-- Cuts the text that follows an open run. -/
def cutFrom (run : Option Open) : List Char → List Piece
  | [] => close run
  | c :: rest =>
    match run with
    | none => (start c).1 ++ cutFrom (start c).2 rest
    | some (kind, hasLetters, read) =>
      let hasLetters := hasLetters || kind.ofLetters
      match kind.next? read c with
      | some kind => cutFrom (some (kind, hasLetters, c :: read)) rest
      | none => finish kind hasLetters read ++ (start c).1 ++ cutFrom (start c).2 rest

/-- The pieces of a text; the character zero is passed over. -/
def cut (cs : List Char) : List Piece :=
  cutFrom none (cs.filter (· != '\x00'))

end Piece

end Bibliography.Calendar.FreeForm
