import Bibliography.Yaml.Character
/-!
# Places in a text

What is still to be read, and where it stands: how many characters come
before it, in which line, and in which column. A byte order mark takes up no
column.
-/

namespace Bibliography.Yaml

/-- A place in a text whose lines end in a line feed or a separator. -/
structure Cursor where
  rest : List Char
  index : Nat
  line : Nat
  column : Nat

namespace Cursor

/-- The start of a text. -/
def start (cs : List Char) : Cursor := ⟨cs, 0, 0, 0⟩

/-- The place behind the next character, before `rest`. -/
def step (c : Char) (rest : List Char) (place : Cursor) : Cursor :=
  if isBreak c then ⟨rest, place.index + 1, place.line + 1, 0⟩
  else ⟨rest, place.index + 1, place.line, if c = '\uFEFF' then place.column else place.column + 1⟩

/-- The place a number of characters further on. -/
def advance (place : Cursor) : Nat → Cursor
  | 0 => place
  | n + 1 =>
    match place.rest with
    | [] => place
    | c :: rest => (step c rest place).advance n

/-- The place in the same text that `rest` is left at. -/
def upTo (place : Cursor) (rest : List Char) : Cursor :=
  place.advance (place.rest.length - rest.length)

end Cursor

end Bibliography.Yaml
