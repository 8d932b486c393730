import Bibliography.Yaml.Stamp
/-!
# Tags

A tag says what kind of value a node is. The kinds known here have names of
their own in a common name space; a tag of any other name is kept as
unknown.
-/

namespace Bibliography.Yaml

/-- What kind of value a node is. -/
inductive Tag where
  | null
  | bool
  | int
  | float
  | str
  | binary
  | timestamp
  | seq
  | map
  | set
  /-- A list of pairs with keys in order. -/
  | omap
  /-- A list of pairs. -/
  | pairs
  /-- The key under which a mapping takes over the entries of others. -/
  | merge
  /-- The key of a mapping's own value. -/
  | value
  | unknown
  deriving DecidableEq, Repr

namespace Tag

/-- Whether the tag is one of lists and mappings. -/
def isOfCollections (tag : Tag) : Bool :=
  [seq, map, set, omap, pairs].contains tag

/-- What the names of the known tags start with. -/
def nameSpace : String := "tag:yaml.org,2002:"

/-- The known tags that values have, by the rest of their names. -/
def names : List (String × Tag) :=
  [("null", null), ("bool", bool), ("int", int), ("float", float), ("str", str),
    ("binary", binary), ("timestamp", timestamp), ("seq", seq), ("map", map), ("set", set),
    ("omap", omap), ("pairs", pairs), ("merge", merge), ("value", value)]

/-- The tag of a full name. -/
def ofName (name : String) : Tag :=
  match names.find? fun (rest, _) => nameSpace ++ rest == name with
  | some (_, tag) => tag
  | none => unknown

/-! ## Tags of plain texts -/

/-- The spellings of true and false. -/
def boolWords : List String :=
  ["yes", "Yes", "YES", "no", "No", "NO", "true", "True", "TRUE", "false", "False", "FALSE",
    "on", "On", "ON", "off", "Off", "OFF"]

/-- The spellings of null. -/
def nullWords : List String := ["", "~", "null", "Null", "NULL"]

/-- The spellings of infinity and of what is no number. -/
def specialWords : List String :=
  [".inf", ".Inf", ".INF", "-.inf", "-.Inf", "-.INF", "+.inf", "+.Inf", "+.INF",
    ".nan", ".NaN", ".NAN"]

/-- The text without its sign. -/
def unsigned : List Char → List Char
  | '-' :: rest => rest
  | '+' :: rest => rest
  | cs => cs

/-- A digit, or an underscore between digits. -/
def isDigitOrLine (c : Char) : Bool := c.isDigit || c == '_'

/-- A part of a number of base sixty: one or two digits below sixty. -/
def isSixtieth : List Char → Bool
  | [a] => a.isDigit
  | [a, b] => a.isDigit && a ≤ '5' && b.isDigit
  | _ => false

/-- The parts of a text between colons. -/
def splitColons : List Char → List (List Char)
  | [] => [[]]
  | ':' :: rest => [] :: splitColons rest
  | c :: rest =>
    match splitColons rest with
    | part :: parts => (c :: part) :: parts
    | [] => [[c]]

/-- Whether the text is one or more parts of a number of base sixty, with a
colon before each. -/
def areSixtieths (cs : List Char) : Bool :=
  match splitColons cs with
  | [] :: parts => !parts.isEmpty && parts.all isSixtieth
  | _ => false

/-- Whether the text writes an integer without a sign: in base two, sixteen,
eight or ten, or in base sixty with colons. -/
def isNatural : List Char → Bool
  | '0' :: 'b' :: rest => !rest.isEmpty && rest.all fun c => c == '0' || c == '1' || c == '_'
  | '0' :: 'x' :: rest =>
    !rest.isEmpty && rest.all fun c =>
      isDigitOrLine c || ('a' ≤ c && c ≤ 'f') || ('A' ≤ c && c ≤ 'F')
  | '0' :: rest => rest.all fun c => ('0' ≤ c && c ≤ '7') || c == '_'
  | c :: rest =>
    c.isDigit &&
      (let tail := rest.dropWhile isDigitOrLine
       tail.isEmpty || areSixtieths tail)
  | [] => false

/-- Whether the text ends here, or in an exponent with a sign. -/
def isExponent : List Char → Bool
  | [] => true
  | e :: sign :: rest =>
    (e == 'e' || e == 'E') && (sign == '-' || sign == '+') && !rest.isEmpty && rest.all Char.isDigit
  | _ => false

/-- Whether the text writes a number with a point, without a sign: digits
before the point, with an exponent behind it or in base sixty with colons. -/
def isPointed (cs : List Char) : Bool :=
  match cs with
  | c :: rest =>
    c.isDigit &&
      (match rest.dropWhile isDigitOrLine with
      | '.' :: tail => isExponent (tail.dropWhile isDigitOrLine)
      | tail =>
        areSixtieths (tail.takeWhile (· != '.')) &&
          (match tail.dropWhile (· != '.') with
          | '.' :: tail => tail.all isDigitOrLine
          | _ => false))
  | [] => false

/-- Whether the text writes a number that starts with a point. -/
def startsWithPoint : List Char → Bool
  | '.' :: c :: rest => c.isDigit && isExponent (rest.dropWhile isDigitOrLine)
  | _ => false

/-- Whether the text writes a real number. -/
def isReal (cs : List Char) : Bool :=
  specialWords.contains (String.ofList cs) || startsWithPoint cs || isPointed (unsigned cs)

/-- The text without a line feed at its end. -/
def withoutFinalBreak (cs : List Char) : List Char :=
  if cs.getLast? == some '\n' then cs.dropLast else cs

/-- The tag of a text without marks of its own. A line feed at its end does
not count, where there is anything before it. -/
def ofPlain (text : String) : Tag :=
  let cs := withoutFinalBreak text.toList
  let word := String.ofList cs
  if cs.isEmpty && !text.isEmpty then str
  else if boolWords.contains word then bool
  else if isReal cs then float
  else if isNatural (unsigned cs) then int
  else if word = "<<" then merge
  else if nullWords.contains word then null
  else if (Stamp.ofChars? cs).any Stamp.isPlain then timestamp
  else if word = "=" then value
  else str

end Tag

end Bibliography.Yaml
