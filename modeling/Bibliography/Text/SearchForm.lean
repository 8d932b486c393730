import Bibliography.Text.Blank
import Bibliography.Text.Case
import Bibliography.Text.Category
import Bibliography.Text.NormalForm
/-!
# The search form of a text

Texts are compared for searching without diacritics, punctuation and
differences of presentation: what is left are letters, numbers and
slashes, in words separated by single spaces.
-/

namespace Bibliography.Text

/-- The text without diacritics: decomposed, without combining marks, and
composed again so that scripts that decompose without marks are unchanged. -/
def withoutMarks (cs : List Char) : List Char :=
  nfc ((nfd cs).filter (category · != .mark))

/-- The characters a search form keeps before its blanks are joined. -/
def isKept (c : Char) : Bool :=
  c == '/' || isBlank c || category c == .letter || category c == .number

/-- Each run of blanks as one space. -/
def joinBlanks : List Char → List Char
  | [] => []
  | c :: rest =>
    if isBlank c then
      match rest with
      | d :: _ => if isBlank d then joinBlanks rest else ' ' :: joinBlanks rest
      | [] => [' ']
    else c :: joinBlanks rest

/-- The steps that both search forms share after their first. -/
def simplify (cs : List Char) : List Char :=
  strip (joinBlanks ((withoutMarks cs).map fun c => if isKept c then c else ' '))

/-- The search form that keeps the case of letters. -/
def searchForm (cs : List Char) : List Char :=
  simplify (nfkc cs)

/-- The search form in lower case. -/
def lowerSearchForm (cs : List Char) : List Char :=
  simplify (lower (nfkc cs))

end Bibliography.Text

namespace Bibliography

/-- The search form of a string that keeps the case of letters. -/
def searchForm (s : String) : String :=
  String.ofList (Text.searchForm s.toList)

/-- The lower-case search form of a string. -/
def lowerSearchForm (s : String) : String :=
  String.ofList (Text.lowerSearchForm s.toList)

end Bibliography
