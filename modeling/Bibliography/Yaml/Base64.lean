/-!
# Bytes in base 64

Four characters of an alphabet of 64 write three bytes. Other characters are
passed over, and equals signs that fill up a group of four end the text.
-/

namespace Bibliography.Yaml.Base64

/-- The number that a character of the alphabet writes. -/
def digit? (c : Char) : Option Nat :=
  if 'A' ≤ c && c ≤ 'Z' then some (c.toNat - 65)
  else if 'a' ≤ c && c ≤ 'z' then some (c.toNat - 71)
  else if c.isDigit then some (c.toNat + 4)
  else if c = '+' then some 62
  else if c = '/' then some 63
  else none

/-- Reads on behind some digits of a group, the last one first, and some
equals signs. -/
def read? (group : List Nat) (pads : Nat) : List Char → Option (List Nat)
  | [] => if group.isEmpty then some [] else none
  | c :: rest =>
    if c = '=' then
      if 2 ≤ group.length && 4 ≤ group.length + pads + 1 then some []
      else read? group (if 2 ≤ group.length then pads + 1 else pads) rest
    else match digit? c, group with
      | none, _ => read? group pads rest
      | some d, [] => read? [d] 0 rest
      | some d, [a] => (read? [d, a] 0 rest).map ((a * 4 + d / 16) :: ·)
      | some d, [b, a] => (read? [d, b, a] 0 rest).map ((b % 16 * 16 + d / 4) :: ·)
      | some d, c :: _ => (read? [] 0 rest).map ((c % 4 * 64 + d) :: ·)

end Bibliography.Yaml.Base64
