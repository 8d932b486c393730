import Bibliography.Json.Value
import Bibliography.Text.Case
import Bibliography.Text.RealNumeral
import Bibliography.Yaml.Base64
import Bibliography.Yaml.Tag
/-!
# Scalar values

The value of a text under its tag. Numbers may be grouped by underscores;
integers are also written in base two, eight and sixteen, and all numbers in
base sixty with colons.
-/

namespace Bibliography.Yaml

/-- A value that is no collection. -/
inductive Scalar where
  | null
  | bool (b : Bool)
  | int (n : Int)
  | real (x : Binary64)
  | text (s : String)
  /-- The numbers of a date or moment. -/
  | date (parts : List Int)
  | bytes (data : List Nat)
  deriving DecidableEq, Repr

namespace Scalar

/-! ## Numbers -/

/-- Splits off the sign of a number, which may not be empty. -/
def sign? : List Char → Except Fault (Bool × List Char)
  | [] => .error .emptyNumber
  | '-' :: rest => .ok (true, rest)
  | '+' :: rest => .ok (false, rest)
  | cs => .ok (false, cs)

/-- A number in a base. -/
def integerIn (base : Nat) (cs : List Char) : Except Fault Int :=
  (Text.readIntIn base cs).mapError .numeral

/-- An integer without its sign. -/
def natural (cs : List Char) : Except Fault Int :=
  match cs with
  | [] => .error .emptyNumber
  | ['0'] => .ok 0
  | '0' :: 'b' :: rest => integerIn 2 rest
  | '0' :: 'x' :: rest => integerIn 16 rest
  | '0' :: _ => integerIn 8 cs
  | _ =>
    if cs.contains ':' then do
      let parts ← (Tag.splitColons cs).mapM (integerIn 10)
      return parts.foldl (60 * · + ·) 0
    else integerIn 10 cs

/-- The integer that a text writes. -/
def integer (cs : List Char) : Except Fault Int := do
  let (negative, rest) ← sign? (cs.filter (· != '_'))
  let n ← natural rest
  return if negative then -n else n

/-- A real number as it is typed. -/
def typedReal (cs : List Char) : Except Fault Binary64 :=
  match Text.readReal? cs with
  | some x => .ok x
  | none => .error (.notReal (String.ofList cs))

/-- The sum of the parts of a number of base sixty, from the last one on, where
`weight` is that of the last. Every weight has to be that of a real number. -/
def sumSixtieths (sum : Binary64) (weight : Int) : List Binary64 → Except Fault Binary64
  | [] => .ok sum
  | x :: rest =>
    match Binary64.ofInt weight with
    | .infinity _ => .error .tooLarge
    | w => sumSixtieths (sum.add (x.mul w)) (60 * weight) rest

/-- A real number without its sign. -/
def magnitude (cs : List Char) : Except Fault Binary64 :=
  if cs = ".inf".toList then .ok (.infinity false)
  else if cs = ".nan".toList then .ok .nan
  else if cs.contains ':' then do
    let parts ← (Tag.splitColons cs).mapM typedReal
    sumSixtieths (.ofInt 0) 1 parts.reverse
  else typedReal cs

/-- The real number that a text writes, in upper or lower case. -/
def realNumber (cs : List Char) : Except Fault Binary64 := do
  let (negative, rest) ← sign? (Text.lower (cs.filter (· != '_')))
  let x ← magnitude rest
  return if negative then x.neg else x

/-! ## Values -/

/-- Whether a word means true or false, in upper or lower case. -/
def flag (text : String) : Except Fault Bool :=
  let word := lowered text
  if ["yes", "true", "on"].contains word then .ok true
  else if ["no", "false", "off"].contains word then .ok false
  else .error (.notFlag word)

/-- The bytes that a text writes. -/
def byteList (cs : List Char) : Except Fault (List Nat) :=
  if cs.all (·.toNat < 0x80) then
    match Base64.read? [] 0 cs with
    | some data => .ok data
    | none => .error .malformed
  else .error .malformed

/-- The date or moment that a text writes. -/
def dateOf (text : String) : Except Fault (List Int) :=
  match Stamp.ofChars? (Tag.withoutFinalBreak text.toList) with
  | some stamp => stamp.parts.mapError .date
  | none => .error (.notDate text)

/-- The value of a text under a tag. Tags of collections have no texts, and
those of special keys no values. -/
def ofText (tag : Tag) (text : String) : Except Fault Scalar :=
  match tag with
  | .null => .ok .null
  | .bool => (flag text).map .bool
  | .int => (integer text.toList).map .int
  | .float => (realNumber text.toList).map .real
  | .str => .ok (.text text)
  | .binary => (byteList text.toList).map .bytes
  | .timestamp => (dateOf text).map .date
  | _ => .error .malformed

/-! ## As keys -/

/-- The integer that a scalar counts as when it is a key: one and zero for true
and false, and a real number's if it has one. -/
def keyInt? : Scalar → Option Int
  | bool b => some (if b then 1 else 0)
  | int n => some n
  | real x => x.toInt?
  | _ => none

/-- Whether two scalars are the same key. -/
def isSameKey (a b : Scalar) : Bool :=
  match a.keyInt?, b.keyInt? with
  | some m, some n => m == n
  | none, none => a == b
  | _, _ => false

/-- How numbers that are not finite are spelled as keys. -/
def keySpecials : Binary64.SpecialTexts := ⟨"NaN", "Infinity"⟩

/-- The text of a scalar as the key of a JSON object. -/
def keyText : Scalar → String
  | null => "null"
  | bool true => "true"
  | bool false => "false"
  | int n => Number.intText n
  | real x => x.text keySpecials
  | text s => s
  | date parts => "-".intercalate (parts.map Number.intText)
  | bytes data => " ".intercalate (data.map fun n : Nat => Number.intText n)

/-- A scalar as a JSON value; dates and bytes become arrays of numbers. -/
def toJson : Scalar → Json
  | null => .null
  | bool b => .bool b
  | int n => .int n
  | real x => .real x
  | text s => .str s
  | date parts => .arr (parts.map .int)
  | bytes data => .arr (data.map fun n : Nat => .int n)

end Scalar

end Bibliography.Yaml
