import Bibliography.Json.Value
import Bibliography.Text.Quoted
/-!
# Showing JSON values as plain text

An identifier is shown as it is when it is a text. Any other value is
shown in a notation of its own: capitalised constants, quoted texts, and
items between brackets.
-/

namespace Bibliography.Json

/-- How a shown value spells the numbers that are not finite. -/
def shownSpecials : Binary64.SpecialTexts := ⟨"nan", "inf"⟩

mutual

/-- A value inside another. -/
def shownInside : Json → List Char
  | null => "None".toList
  | bool true => "True".toList
  | bool false => "False".toList
  | int n => (Number.intText n).toList
  | real x => (x.text shownSpecials).toList
  | str s => Text.quoted s.toList
  | arr items => '[' :: (shownItems items ++ [']'])
  | obj members => '\x7b' :: (shownMembers members ++ ['\x7d'])

/-- The items of an array, with a comma and a space between them. -/
def shownItems : List Json → List Char
  | [] => []
  | [v] => shownInside v
  | v :: rest => shownInside v ++ ',' :: ' ' :: shownItems rest

/-- The members of an object, with a comma and a space between them. -/
def shownMembers : List (String × Json) → List Char
  | [] => []
  | [(k, v)] => Text.quoted k.toList ++ ':' :: ' ' :: shownInside v
  | (k, v) :: rest =>
    Text.quoted k.toList ++ ':' :: ' ' :: shownInside v ++ ',' :: ' ' :: shownMembers rest

end

/-- The value as plain text: a text as it is, and any other value shown. -/
def shown : Json → String
  | str s => s
  | v => String.ofList (shownInside v)

end Bibliography.Json
