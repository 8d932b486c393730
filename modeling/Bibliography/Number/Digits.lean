/-!
# Decimal digits in texts

The value of a run of the digits 0 to 9, and the run that writes a number.
-/

namespace Bibliography.Number

/-- The value of one of the digits 0 to 9, or of a hexadecimal digit. -/
def digitValue (c : Char) : Nat :=
  if c.isDigit then c.toNat - 48
  else if 'a' ≤ c && c ≤ 'f' then c.toNat - 87
  else c.toNat - 55

/-- Whether the character is a hexadecimal digit. -/
def isHexDigit (c : Char) : Bool :=
  c.isDigit || ('a' ≤ c && c ≤ 'f') || ('A' ≤ c && c ≤ 'F')

/-- The number that the digits write in the given base. -/
def ofDigits (base : Nat) (digits : List Char) : Nat :=
  digits.foldl (fun n c => base * n + digitValue c) 0

/-- The digits that write a number in base ten. -/
def decimalDigits (n : Nat) : List Char :=
  Nat.toDigits 10 n

/-- The number in base ten, with zeros in front up to the given width. -/
def padded (width n : Nat) : String :=
  let digits := decimalDigits n
  String.ofList (List.replicate (width - digits.length) '0' ++ digits)

/-- An integer in base ten, with a minus sign if it is negative. -/
def intText (n : Int) : String :=
  String.ofList (if n < 0 then '-' :: decimalDigits n.natAbs else decimalDigits n.natAbs)

/-- The most digits that the numeral of an integer may have. -/
def maxDigits : Nat := 4300

end Bibliography.Number
