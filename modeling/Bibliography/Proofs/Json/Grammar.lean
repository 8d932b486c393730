import Bibliography.Json.Reader
/-!
# The grammar of JSON text

JSON text as it is written, without a reader: how a token is spelled, which
tokens a text writes, and which value tokens make up. No rule asks that a
number be spelled as far as it goes: in the text of a value, nothing that
follows a number goes on with it.
-/

namespace Bibliography.Json

/-! ## The spelling of a number -/

/-- Some of the digits 0 to 9. -/
structure IsDigits (ds : List Char) : Prop where
  ne_nil : ds ≠ []
  isDigit : ∀ c ∈ ds, c.isDigit

/-- The digits of a whole number: a zero in front stands alone. -/
structure IsWhole (ds : List Char) : Prop extends IsDigits ds where
  zero_alone : ds.head? = some '0' → ds = ['0']

/-- The digits of a fraction and their text. -/
inductive SpellsFraction : List Char → List Char → Prop
  | absent : SpellsFraction [] []
  | digits {ds : List Char} (h : IsDigits ds) : SpellsFraction ds ('.' :: ds)

/-- The exponent of a number and its text. -/
inductive SpellsPower : Option Int → List Char → Prop
  | absent : SpellsPower none []
  | positive {e : Char} {sign ds : List Char} (he : e = 'e' ∨ e = 'E')
      (hsign : sign = [] ∨ sign = ['+']) (h : IsDigits ds) :
      SpellsPower (some (Number.ofDigits 10 ds : Int)) (e :: (sign ++ ds))
  | negative {e : Char} {ds : List Char} (he : e = 'e' ∨ e = 'E') (h : IsDigits ds) :
      SpellsPower (some (-(Number.ofDigits 10 ds : Int))) (e :: '-' :: ds)

/-- What stands in front of the digits of a number. -/
def signText (negative : Bool) : List Char :=
  if negative then ['-'] else []

/-- The token of a number: an integer only if neither a fraction nor an
exponent is written. -/
def Token.number (negative : Bool) (ds fs : List Char) (power : Option Int) : Token :=
  if fs.isEmpty && power.isNone then .integer negative ds
  else .scalar (.real (Binary64.ofDecimal negative (Number.ofDigits 10 (ds ++ fs))
    (power.getD 0 - fs.length)))

/-! ## The spelling of a string -/

/-- The code points of a string and the text between its quotes. Quotes,
backslashes and control characters do not stand for themselves. -/
inductive SpellsUnits : List Nat → List Char → Prop
  | nil : SpellsUnits [] []
  | plain {c : Char} {units : List Nat} {cs : List Char} (hcontrol : 0x20 ≤ c.toNat)
      (hquote : c ≠ '"') (hbackslash : c ≠ '\\') (h : SpellsUnits units cs) :
      SpellsUnits (c.toNat :: units) (c :: cs)
  | escape {e c : Char} {units : List Nat} {cs : List Char} (he : Token.escaped? e = some c)
      (h : SpellsUnits units cs) : SpellsUnits (c.toNat :: units) ('\\' :: e :: cs)
  | unicode {a b c d : Char} {units : List Nat} {cs : List Char}
      (hex : [a, b, c, d].all Number.isHexDigit = true) (h : SpellsUnits units cs) :
      SpellsUnits (Number.ofDigits 16 [a, b, c, d] :: units) ('\\' :: 'u' :: a :: b :: c :: d :: cs)

/-! ## The spelling of a token -/

/-- The tokens of one character. -/
def Token.marks : List (Char × Token) :=
  [('[', .openArr), (']', .closeArr), ('\x7b', .openObj), ('\x7d', .closeObj), (',', .comma),
    (':', .colon)]

/-- How a token is spelled. -/
inductive Token.Spells : Token → List Char → Prop
  | mark {c : Char} {t : Token} (h : (c, t) ∈ Token.marks) : Spells t [c]
  | literal {name : List Char} {value : Json} (h : (name, value) ∈ Token.literals) :
      Spells (.scalar value) name
  | number {negative : Bool} {ds fs ftext ptext : List Char} {power : Option Int}
      (hds : IsWhole ds) (hfs : SpellsFraction fs ftext) (hpower : SpellsPower power ptext) :
      Spells (.number negative ds fs power) (signText negative ++ (ds ++ (ftext ++ ptext)))
  | str {units : List Nat} {cs : List Char} (h : SpellsUnits units cs) :
      Spells (.str (.ofList (Token.joinSurrogates units))) ('"' :: (cs ++ ['"']))

/-- The tokens that a text writes. -/
inductive Writes : List Token → List Char → Prop
  | nil : Writes [] []
  | gap {c : Char} {ts : List Token} {cs : List Char} (hc : Token.isSpace c = true)
      (h : Writes ts cs) : Writes ts (c :: cs)
  | token {t : Token} {ts : List Token} {text cs : List Char} (ht : t.Spells text)
      (h : Writes ts cs) : Writes (t :: ts) (text ++ cs)

/-! ## Values -/

/-- The integer of a sign and digits. -/
def integerOf (negative : Bool) (ds : List Char) : Int :=
  if negative then -(Number.ofDigits 10 ds : Int) else Number.ofDigits 10 ds

/-- The tokens of things with commas between them. -/
def separated (parts : List (List Token)) : List Token :=
  [Token.comma].intercalate parts

/-- A member of an object, with the tokens of its value. -/
structure Member where
  key : String
  tokens : List Token
  value : Json

namespace Member

/-- All tokens of a member. -/
def phrase (m : Member) : List Token := .str m.key :: .colon :: m.tokens

/-- The member as an object holds it. -/
def entry (m : Member) : String × Json := (m.key, m.value)

end Member

/-- The tokens of an array of items, each given by its tokens and its value. -/
def arrPhrase (items : List (List Token × Json)) : List Token :=
  .openArr :: (separated (items.map (·.1)) ++ [.closeArr])

/-- The tokens of an object. -/
def objPhrase (members : List Member) : List Token :=
  .openObj :: (separated (members.map Member.phrase) ++ [.closeObj])

/-- **The value that tokens make up.** -/
inductive Phrase : List Token → Json → Prop
  | scalar (v : Json) : Phrase [.scalar v] v
  | str (s : String) : Phrase [.str s] (.str s)
  | integer (negative : Bool) {ds : List Char} (h : ds.length ≤ Number.maxDigits) :
      Phrase [.integer negative ds] (.int (integerOf negative ds))
  | arr (items : List (List Token × Json)) (h : ∀ item ∈ items, Phrase item.1 item.2) :
      Phrase (arrPhrase items) (.arr (items.map (·.2)))
  | obj (members : List Member) (h : ∀ m ∈ members, Phrase m.tokens m.value) :
      Phrase (objPhrase members) (.obj (Members.ofList (members.map Member.entry)))

/-- **JSON text and its value.** -/
def IsText (cs : List Char) (v : Json) : Prop :=
  ∃ ts, Writes ts cs ∧ Phrase ts v

/-! ## Putting texts together -/

theorem Writes.append {ts us : List Token} {cs ds : List Char} (h : Writes ts cs)
    (h' : Writes us ds) : Writes (ts ++ us) (cs ++ ds) := by
  induction h with
  | nil => exact h'
  | gap hc _ ih => exact .gap hc ih
  | token ht _ ih =>
    rw [List.append_assoc]
    exact .token ht ih

/-- The text of one token. -/
theorem Token.Spells.writes {t : Token} {text : List Char} (h : t.Spells text) :
    Writes [t] text := by
  have hone : Writes [t] (text ++ []) := .token h .nil
  rwa [List.append_nil] at hone

/-- Blanks. -/
theorem writes_gap {cs : List Char} (h : ∀ c ∈ cs, Token.isSpace c = true) : Writes [] cs := by
  induction cs with
  | nil => exact .nil
  | cons c cs ih =>
    obtain ⟨hc, hcs⟩ := List.forall_mem_cons.1 h
    exact .gap hc (ih hcs)

end Bibliography.Json
