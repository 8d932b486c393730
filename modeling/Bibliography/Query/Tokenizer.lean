import Bibliography.Query.Token
import Bibliography.Text.Blank
/-!
# Reading a query

Tokens are separated by white space:

- a word, or a phrase in double quotes, is looked for in all fields;
- `field:word` and `field:"phrase"` are looked for in one field.

Every text is a query. A field without a value and quotes around nothing
but blanks are passed over; an unknown field is part of its word; a quote
that is never closed starts an ordinary word.
-/

namespace Bibliography.Query

/-- The characters of a word outside quotes. -/
def isBare (c : Char) : Bool :=
  !Text.isBlank c && c != '"'

/-- The characters of a field's name: all up to a colon or a blank. -/
def isNameChar (c : Char) : Bool :=
  c != ':' && !Text.isBlank c

/-- What stands before the closing quote, and what stands after it. -/
def untilQuote? (cs : List Char) : Option (List Char × List Char) :=
  match cs.dropWhile (· != '"') with
  | _ :: rest => some (cs.takeWhile (· != '"'), rest)
  | [] => none

/-- A token of the given source and value. -/
def token (raw value : List Char) (field : Option Field) (isPhrase : Bool) : Token :=
  ⟨String.ofList raw, String.ofList value, field, isPhrase⟩

/-- Reads the value of a field from what follows the colon: the token, if
there is a value, and the rest. Nothing when there are quotes that hold no
phrase. -/
def readValue? (name : List Char) (field : Field) (cs : List Char) :
    Option (Option Token × List Char) :=
  match cs with
  | [] => some (none, [])
  | c :: inner =>
    if Text.isBlank c then some (none, cs)
    else if c = '"' then
      match untilQuote? inner with
      | some (value, after) =>
        if Text.blank value then none
        else some (token (name ++ ':' :: '"' :: value ++ ['"']) value field true, after)
      | none => none
    else
      some (token (name ++ ':' :: cs.takeWhile isBare) (cs.takeWhile isBare) field false,
        cs.dropWhile isBare)

/-- Reads `field:value` from the front of a text. Nothing when the text does
not start with the name of a field and a colon. -/
def readFieldValue? (cs : List Char) : Option (Option Token × List Char) :=
  match cs.dropWhile isNameChar, Field.ofName? (String.ofList (cs.takeWhile isNameChar)) with
  | ':' :: rest, some field => readValue? (cs.takeWhile isNameChar) field rest
  | _, _ => none

/-- Reads a word or a phrase from the front of a text. -/
def readFree : List Char → Option Token × List Char
  | '"' :: inner =>
    match untilQuote? inner with
    | some (value, after) =>
      if Text.blank value then (none, after)
      else (token ('"' :: value ++ ['"']) value none true, after)
    | none =>
      let word := '"' :: inner.takeWhile (!Text.isBlank ·)
      (token word word none false, inner.dropWhile (!Text.isBlank ·))
  | cs =>
    let word := cs.takeWhile isBare
    (token word word none false, cs.dropWhile isBare)

/-- Reads from the front of a text that starts with no blank. -/
def readToken (cs : List Char) : Option Token × List Char :=
  (readFieldValue? cs).getD (readFree cs)

theorem length_dropWhile_le {α : Type} (p : α → Bool) (l : List α) :
    (l.dropWhile p).length ≤ l.length :=
  (List.dropWhile_suffix p).length_le

theorem length_untilQuote?_lt {cs value after : List Char}
    (h : untilQuote? cs = some (value, after)) : after.length < cs.length := by
  unfold untilQuote? at h
  split at h
  · rename_i q rest hd
    have := length_dropWhile_le (· != '"') cs
    rw [hd] at this
    cases h
    simp only [List.length_cons] at this
    omega
  · simp at h

theorem length_readValue?_le {name cs rest : List Char} {field : Field} {t : Option Token}
    (h : readValue? name field cs = some (t, rest)) : rest.length ≤ cs.length := by
  unfold readValue? at h
  split at h
  · cases h
    exact Nat.le_refl _
  · rename_i c inner
    split at h
    · cases h
      exact Nat.le_refl _
    · split at h
      · split at h
        · rename_i value after hq
          have := length_untilQuote?_lt hq
          split at h
          · simp at h
          · cases h
            simp only [List.length_cons]
            omega
        · simp at h
      · cases h
        exact length_dropWhile_le isBare (c :: inner)

theorem length_readFieldValue?_lt {cs rest : List Char} {t : Option Token}
    (h : readFieldValue? cs = some (t, rest)) : rest.length < cs.length := by
  unfold readFieldValue? at h
  have hname := length_dropWhile_le isNameChar cs
  split at h
  · rename_i tail field hd _
    rw [hd] at hname
    have := length_readValue?_le h
    simp only [List.length_cons] at hname
    omega
  · simp at h

theorem length_readFree_lt {c : Char} {rest : List Char} (hc : Text.isBlank c = false) :
    (readFree (c :: rest)).2.length < (c :: rest).length := by
  unfold readFree
  split
  · rename_i inner heq
    cases heq
    split
    · rename_i value after hq
      have := length_untilQuote?_lt hq
      split <;> simp only [List.length_cons] <;> omega
    · have := length_dropWhile_le (!Text.isBlank ·) rest
      simp only [List.length_cons]
      omega
  · rename_i hne
    have hq : c ≠ '"' := fun h => hne rest (by rw [h])
    have hb : isBare c = true := by simp [isBare, hc, hq]
    have := length_dropWhile_le isBare rest
    simp only [List.dropWhile_cons, hb, if_true, List.length_cons]
    omega

theorem length_readToken_lt {c : Char} {rest : List Char} (hc : Text.isBlank c = false) :
    (readToken (c :: rest)).2.length < (c :: rest).length := by
  unfold readToken
  cases h : readFieldValue? (c :: rest) with
  | some r => exact length_readFieldValue?_lt h
  | none => exact length_readFree_lt hc

/-- The tokens of a text. -/
def tokens (cs : List Char) : List Token :=
  match cs with
  | [] => []
  | c :: rest =>
    if _hc : Text.isBlank c then tokens rest
    else
      let found := readToken (c :: rest)
      found.1.toList ++ tokens found.2
termination_by cs.length
decreasing_by
  · simp
  · exact length_readToken_lt (by simpa using _hc)

/-- The tokens of a query, in the order of the text. -/
def tokenize (query : String) : List Token :=
  tokens query.toList

end Bibliography.Query
