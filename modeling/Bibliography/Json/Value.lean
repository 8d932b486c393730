import Bibliography.Number.Shortest
/-!
# JSON values

A value keeps the members of its objects in order. Numbers written without
a fraction and an exponent are integers of any size; all others are in
double precision.
-/

namespace Bibliography

/-- A JSON value. -/
inductive Json where
  | null
  | bool (b : Bool)
  | int (n : Int)
  | real (x : Binary64)
  | str (s : String)
  | arr (items : List Json)
  | obj (members : List (String × Json))
  deriving Repr, Inhabited

namespace Json

/-- The members of an object, in order. -/
abbrev Members := List (String × Json)

namespace Members

/-- The value under a key. -/
def get? (key : String) (members : Members) : Option Json :=
  members.lookup key

/-- Puts a value under a key: in the place of the value that is there, or
at the end. -/
def put (key : String) (value : Json) : Members → Members
  | [] => [(key, value)]
  | (k, v) :: rest => if k = key then (k, value) :: rest else (k, v) :: put key value rest

/-- The members as they come: a repeated key keeps its first place and its
last value. -/
def ofList (entries : List (String × Json)) : Members :=
  entries.foldl (fun members (k, v) => put k v members) []

theorem get?_put_self (key : String) (value : Json) (members : Members) :
    get? key (put key value members) = some value := by
  induction members with
  | nil => simp [put, get?]
  | cons m rest ih =>
    obtain ⟨k, v⟩ := m
    by_cases h : k = key
    · simp [put, get?, h]
    · have h' : (key == k) = false := by simpa using fun e => h e.symm
      rw [put, if_neg h, get?, List.lookup_cons, h']
      exact ih

end Members

/-- The value under a key of an object; nothing for any other value. -/
def get? (key : String) : Json → Option Json
  | obj members => Members.get? key members
  | _ => none

/-- A string's text. -/
def str? : Json → Option String
  | str s => some s
  | _ => none

/-- An array's items. -/
def arr? : Json → Option (List Json)
  | arr items => some items
  | _ => none

/-- An object's members. -/
def obj? : Json → Option Members
  | obj members => some members
  | _ => none

/-- Whether a value counts as present: neither null nor false, nor zero, nor
empty. -/
def isTruthy : Json → Bool
  | null => false
  | bool b => b
  | int n => n != 0
  | real x => !x.isZero
  | str s => !s.isEmpty
  | arr items => !items.isEmpty
  | obj members => !members.isEmpty

end Json

end Bibliography
