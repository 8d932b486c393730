import Bibliography.Json.Value
/-!
# The tokens of JSON text

Text is cut into brackets, commas, colons, strings, numbers and literals.
A run that is none of these becomes one `junk` token and ends the text:
no value can follow from it.
-/

namespace Bibliography.Json

/-- A token of JSON text. An integer keeps its digits, since too many of them
are refused only where a value is read. -/
inductive Token where
  | openArr
  | closeArr
  | openObj
  | closeObj
  | comma
  | colon
  | scalar (value : Json)
  | integer (negative : Bool) (digits : List Char)
  | str (text : String)
  | junk
  deriving Repr

namespace Token

/-- The blanks between tokens. -/
def isSpace (c : Char) : Bool :=
  c == ' ' || c == '\t' || c == '\n' || c == '\r'

/-! ## Strings -/

/-- The character that a one-letter escape stands for. -/
def escaped? : Char → Option Char
  | '"' => some '"'
  | '\\' => some '\\'
  | '/' => some '/'
  | 'b' => some '\x08'
  | 'f' => some '\x0c'
  | 'n' => some '\n'
  | 'r' => some '\r'
  | 't' => some '\t'
  | _ => none

/-- Reads up to the closing quote. Gives the code points, with the halves of
escaped surrogate pairs still apart, and what follows the quote. -/
def readUnits : List Char → Option (List Nat × List Char)
  | [] => none
  | '"' :: rest => some ([], rest)
  | '\\' :: 'u' :: a :: b :: c :: d :: rest =>
    if [a, b, c, d].all Number.isHexDigit then
      (readUnits rest).map fun (units, rest) => (Number.ofDigits 16 [a, b, c, d] :: units, rest)
    else none
  | '\\' :: e :: rest =>
    match escaped? e with
    | some c => (readUnits rest).map fun (units, rest) => (c.toNat :: units, rest)
    | none => none
  | c :: rest =>
    if c.toNat < 0x20 || c = '\\' then none
    else (readUnits rest).map fun (units, rest) => (c.toNat :: units, rest)

def isHighSurrogate (n : Nat) : Bool := 0xD800 ≤ n && n < 0xDC00
def isLowSurrogate (n : Nat) : Bool := 0xDC00 ≤ n && n < 0xE000

/-- The characters of the code points, surrogate pairs joined. A surrogate
that stands alone is no character and leaves the replacement character. So
every text that has been read can be written; one with such a surrogate in it
could not be, and is beyond what texts are here. -/
def joinSurrogates : List Nat → List Char
  | [] => []
  | [n] => [if isHighSurrogate n || isLowSurrogate n then '\uFFFD' else Char.ofNat n]
  | high :: low :: rest =>
    if isHighSurrogate high && isLowSurrogate low then
      Char.ofNat (0x10000 + (high - 0xD800) * 0x400 + (low - 0xDC00)) :: joinSurrogates rest
    else
      (if isHighSurrogate high || isLowSurrogate high then '\uFFFD' else Char.ofNat high) ::
        joinSurrogates (low :: rest)

theorem length_readUnits_lt {cs rest : List Char} {units : List Nat}
    (h : readUnits cs = some (units, rest)) : rest.length < cs.length := by
  fun_induction readUnits cs generalizing units rest with
  | case1 => simp at h
  | case2 => simp_all
  | case3 a b c d tail _ ih =>
    obtain ⟨⟨_, _⟩, h, e⟩ := Option.map_eq_some_iff.1 h
    cases e
    have := ih h
    simp only [List.length_cons]
    omega
  | case4 => simp at h
  | case5 e tail _ c _ ih =>
    obtain ⟨⟨_, _⟩, h, e⟩ := Option.map_eq_some_iff.1 h
    cases e
    have := ih h
    simp only [List.length_cons]
    omega
  | case6 => simp at h
  | case7 => simp at h
  | case8 c tail _ _ _ _ ih =>
    obtain ⟨⟨_, _⟩, h, e⟩ := Option.map_eq_some_iff.1 h
    cases e
    have := ih h
    simp only [List.length_cons]
    omega

/-! ## Numbers -/

/-- The digits at the front, and the rest. -/
def digits (cs : List Char) : List Char × List Char :=
  (cs.takeWhile Char.isDigit, cs.dropWhile Char.isDigit)

/-- The digits of a fraction, and the rest; none where no digit follows the
point. -/
def fraction (cs : List Char) : List Char × List Char :=
  match cs with
  | '.' :: rest => if (digits rest).1.isEmpty then ([], cs) else digits rest
  | _ => ([], cs)

/-- The value of an exponent, and the rest; none where no digit follows. -/
def exponent? (cs : List Char) : Option Int × List Char :=
  match cs with
  | e :: rest =>
    if e = 'e' || e = 'E' then
      let (negative, rest') := match rest with
        | '-' :: r => (true, r)
        | '+' :: r => (false, r)
        | r => (false, r)
      let (ds, rest'') := digits rest'
      if ds.isEmpty then (none, cs)
      else
        let n : Int := Number.ofDigits 10 ds
        (some (if negative then -n else n), rest'')
    else (none, cs)
  | [] => (none, cs)

/-- Reads a number after its sign. -/
def readNumber (negative : Bool) (cs : List Char) : Option (Token × List Char) :=
  let (whole, rest) := match cs with
    | '0' :: rest => (['0'], rest)
    | _ => digits cs
  if whole.isEmpty then none
  else
    let (frac, rest₁) := fraction rest
    let (power, rest₂) := exponent? rest₁
    if frac.isEmpty && power.isNone then some (.integer negative whole, rest₂)
    else
      let value := Binary64.ofDecimal negative (Number.ofDigits 10 (whole ++ frac))
        (power.getD 0 - frac.length)
      some (.scalar (.real value), rest₂)

theorem length_digits_le (cs : List Char) : (digits cs).2.length ≤ cs.length :=
  (List.dropWhile_suffix _).length_le

theorem length_fraction_le (cs : List Char) : (fraction cs).2.length ≤ cs.length := by
  unfold fraction
  split
  · split
    · simp
    · exact Nat.le_succ_of_le (length_digits_le _)
  · simp

theorem length_exponent?_le (cs : List Char) : (exponent? cs).2.length ≤ cs.length := by
  unfold exponent?
  split
  · split
    · rename_i e rest _
      have key : ∀ p : Bool × List Char, p.2.length ≤ rest.length →
          ((if (digits p.2).1.isEmpty then (none, e :: rest)
            else (some (if p.1 then -(Number.ofDigits 10 (digits p.2).1 : Int)
              else (Number.ofDigits 10 (digits p.2).1 : Int)), (digits p.2).2)) :
            Option Int × List Char).2.length ≤ (e :: rest).length := by
        intro p hp
        split
        · simp
        · have := length_digits_le p.2
          simp only [List.length_cons]
          omega
      apply key
      split <;> simp
    · simp
  · simp

theorem length_readNumber_lt {negative : Bool} {cs rest : List Char} {t : Token}
    (h : readNumber negative cs = some (t, rest)) : rest.length < cs.length := by
  have key : ∀ p : List Char × List Char, (p.1 ≠ [] → p.2.length < cs.length) →
      (if p.1.isEmpty then none
        else
          if (fraction p.2).1.isEmpty && (exponent? (fraction p.2).2).1.isNone then
            some (Token.integer negative p.1, (exponent? (fraction p.2).2).2)
          else some (.scalar (.real (Binary64.ofDecimal negative
            (Number.ofDigits 10 (p.1 ++ (fraction p.2).1))
            ((exponent? (fraction p.2).2).1.getD 0 - (fraction p.2).1.length))),
            (exponent? (fraction p.2).2).2)) = some (t, rest) → rest.length < cs.length := by
    intro p hp h
    have h₁ := length_fraction_le p.2
    have h₂ := length_exponent?_le (fraction p.2).2
    split at h
    · simp at h
    · rename_i hne
      have := hp (by simpa using hne)
      split at h <;> (simp only [Option.some.injEq, Prod.mk.injEq] at h; rw [← h.2]; omega)
  refine key _ ?_ h
  split
  · simp
  · intro hne
    have := congrArg List.length (List.takeWhile_append_dropWhile (p := Char.isDigit) (l := cs))
    have := List.length_pos_iff.2 hne
    simp only [digits, List.length_append] at *
    omega

/-! ## The text as tokens -/

/-- The literals, by name. -/
def literals : List (List Char × Json) :=
  [(['n', 'u', 'l', 'l'], .null), (['t', 'r', 'u', 'e'], .bool true),
    (['f', 'a', 'l', 's', 'e'], .bool false), (['N', 'a', 'N'], .real .nan),
    (['I', 'n', 'f', 'i', 'n', 'i', 't', 'y'], .real (.infinity false)),
    (['-', 'I', 'n', 'f', 'i', 'n', 'i', 't', 'y'], .real (.infinity true))]

/-- The literal at the front of a text. -/
def literal? (cs : List Char) : Option (Token × List Char) :=
  literals.findSome? fun (name, value) =>
    if name.isPrefixOf cs then some (.scalar value, cs.drop name.length) else none

/-- The token that starts with `c` and goes on with `rest`, and what follows. -/
def read? (c : Char) (rest : List Char) : Option (Token × List Char) :=
  match c with
  | '[' => some (.openArr, rest)
  | ']' => some (.closeArr, rest)
  | '\x7b' => some (.openObj, rest)
  | '\x7d' => some (.closeObj, rest)
  | ',' => some (.comma, rest)
  | ':' => some (.colon, rest)
  | '"' => (readUnits rest).map fun (units, rest) => (.str (.ofList (joinSurrogates units)), rest)
  | _ =>
    match literal? (c :: rest) with
    | some found => some found
    | none => if c = '-' then readNumber true rest else
      if c.isDigit then readNumber false (c :: rest) else none

theorem length_literal?_lt {cs rest : List Char} {t : Token} (h : literal? cs = some (t, rest)) :
    rest.length < cs.length := by
  obtain ⟨⟨name, value⟩, hmem, h⟩ := List.exists_of_findSome?_eq_some h
  dsimp only at h
  split at h
  · rename_i hp
    have hle := (List.isPrefixOf_iff_prefix.1 hp).length_le
    have hpos : 0 < name.length := by
      simp only [literals, List.mem_cons, Prod.mk.injEq, List.not_mem_nil, or_false] at hmem
      rcases hmem with h | h | h | h | h | h <;> simp [h.1]
    simp only [Option.some.injEq, Prod.mk.injEq] at h
    rw [← h.2, List.length_drop]
    omega
  · simp at h

theorem length_read?_le {c : Char} {rest rest' : List Char} {t : Token}
    (h : read? c rest = some (t, rest')) : rest'.length ≤ rest.length := by
  unfold read? at h
  split at h
  case h_7 =>
    obtain ⟨⟨_, _⟩, h, e⟩ := Option.map_eq_some_iff.1 h
    cases e
    exact Nat.le_of_lt (length_readUnits_lt h)
  case h_8 =>
    split at h
    · cases h
      exact Nat.le_of_lt_succ (length_literal?_lt (by assumption))
    · split at h
      · exact Nat.le_of_lt (length_readNumber_lt h)
      · split at h
        · exact Nat.le_of_lt_succ (length_readNumber_lt h)
        · simp at h
  all_goals
    cases h
    exact Nat.le_refl _

/-- The tokens of a text. -/
def ofText (cs : List Char) : List Token :=
  match cs with
  | [] => []
  | c :: rest =>
    if isSpace c then ofText rest
    else match _h : read? c rest with
      | some (t, rest') => t :: ofText rest'
      | none => [junk]
termination_by cs.length
decreasing_by
  · simp
  · have := length_read?_le _h
    simp only [List.length_cons]
    omega

end Token

end Bibliography.Json
