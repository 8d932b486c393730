import Bibliography.Json.Token
/-!
# Reading JSON text

A value is read from the tokens by a stack of the arrays and objects that
are still open. Reading stops at the first token that fits nowhere, and at
the first integer of too many digits, whichever comes first.
-/

namespace Bibliography.Json

/-- Why a text is no JSON value. -/
inductive ReadError where
  /-- The text breaks the grammar. -/
  | malformed
  /-- An integer has more digits than numerals may have. -/
  | tooManyDigits (count : Nat)
  deriving DecidableEq, Repr

/-- An open array or object: what is complete, last first, and for an object
the key whose value comes next. -/
inductive Frame where
  | arr (items : List Json)
  | obj (members : List (String × Json)) (key : String)

/-- What the next token is read as. -/
inductive Await where
  /-- A value. -/
  | value
  /-- The first item of an array, or its end. -/
  | firstItem
  /-- What follows a complete value. -/
  | after (value : Json)
  /-- The key of a member; the end of the object too where it has none yet. -/
  | key (members : List (String × Json)) (mayClose : Bool)
  /-- The colon after a key. -/
  | colon (members : List (String × Json)) (key : String)

/-- Takes a token where a value may start. -/
def Token.startValue (stack : List Frame) : Token → Except ReadError (List Frame × Await)
  | .scalar v => .ok (stack, .after v)
  | .str s => .ok (stack, .after (.str s))
  | .integer negative digits =>
    if Number.maxDigits < digits.length then .error (.tooManyDigits digits.length)
    else
      let n : Int := Number.ofDigits 10 digits
      .ok (stack, .after (.int (if negative then -n else n)))
  | .openArr => .ok (.arr [] :: stack, .firstItem)
  | .openObj => .ok (stack, .key [] true)
  | _ => .error .malformed

/-- Takes one token. -/
def Token.step : List Frame × Await → Token → Except ReadError (List Frame × Await)
  | (stack, .value), t => t.startValue stack
  | (.arr [] :: stack, .firstItem), .closeArr => .ok (stack, .after (.arr []))
  | (stack, .firstItem), t => t.startValue stack
  | (.arr items :: stack, .after v), .comma => .ok (.arr (v :: items) :: stack, .value)
  | (.arr items :: stack, .after v), .closeArr => .ok (stack, .after (.arr (v :: items).reverse))
  | (.obj members key :: stack, .after v), .comma => .ok (stack, .key ((key, v) :: members) false)
  | (.obj members key :: stack, .after v), .closeObj =>
    .ok (stack, .after (.obj (Members.ofList ((key, v) :: members).reverse)))
  | (stack, .key members _), .str s => .ok (stack, .colon members s)
  | (stack, .key _ true), .closeObj => .ok (stack, .after (.obj []))
  | (stack, .colon members key), .colon => .ok (.obj members key :: stack, .value)
  | _, _ => .error .malformed

/-- The value that a token list writes. -/
def ofTokens (tokens : List Token) : Except ReadError Json :=
  match tokens.foldlM Token.step ([], .value) with
  | .ok ([], .after v) => .ok v
  | .ok _ => .error .malformed
  | .error e => .error e

/-- The value that a text writes. -/
def parse (text : String) : Except ReadError Json :=
  ofTokens (Token.ofText text.toList)

end Bibliography.Json
