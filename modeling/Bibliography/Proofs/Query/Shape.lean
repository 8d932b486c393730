import Bibliography.Proofs.Query.Concatenation
import Bibliography.Proofs.Query.RoundTrip
import Bibliography.Proofs.Query.Segmentation
/-!
# The shapes of tokens

Whatever the query, a token is `Canonical` or one of two strays: a field before a
quote that opens no phrase, and a word behind a quote that is never closed
(`Reads.shape`). Readings take quotes in pairs, and only a stray quote is taken alone
(`Reads.countP_isUnclosed`), so there is one of these just when the quotes of the query
are odd in number. `exists_places_tokenize` puts it together.
-/

namespace Bibliography.Query

open Text (isBlank blank)

/-- **The shapes of tokens**, where `after` follows the token in the query. -/
inductive Shape (after : List Char) : Token → Prop
  /-- A word or a phrase, in one field or in all. -/
  | canonical {t : Token} : Canonical t → Shape after t
  /-- A field's name and colon right before a quote. -/
  | strayField (f : Field) :
      after.head? = some '"' → Shape after (token f.lead f.lead none false)
  /-- The last quote of the query and the rest of its word. -/
  | strayQuote {w : List Char} :
      (∀ c ∈ w, isBlank c = false) → '"' ∉ w ++ after →
      Shape after (token ('"' :: w) ('"' :: w) none false)

/-- Whether a token starts with a quote that is never closed: it is looked for as it
stands in all fields, and has a quote in front. -/
def Token.isUnclosed (t : Token) : Bool :=
  t.field.isNone && !t.isPhrase && t.raw.toList.head? == some '"'

/-- **What is known of a token and its place.** -/
structure Placed (q : List Char) (t : Token) (s : Span) : Prop where
  /-- It stands there. -/
  raw_eq : t.raw.toList = s.text q
  shape : Shape (q.drop s.stop) t
  /-- A quote that is never closed is the last one of the query. -/
  lastQuote : t.isUnclosed = true → ∃ rest, q.drop s.start = '"' :: rest ∧ '"' ∉ rest
  /-- Outside fields and quotes it is looked for as it stands. -/
  value_eq : t.field = none → t.isPhrase = false → t.value = t.raw

section Readings

variable {w cs rest : List Char} {f : Field} {t : Token} {o : Option Token} {ts : List Token}

/-- A word whose text before the first colon is the name of a field starts with it. -/
theorem lead_prefix_of_takeWhile (hcolon : ':' ∈ w)
    (hname : w.takeWhile (· != ':') = f.name.toList) : f.lead <+: w := by
  -- the text before the first colon, where there is one
  obtain ⟨v, after, rfl, hv⟩ := List.eq_append_cons_of_mem hcolon
  have hrun : ∀ c ∈ v, (c != ':') = true := fun c hc => by
    simpa using ne_of_mem_of_not_mem hc hv
  have hstop : Stops (· != ':') (':' :: after) := stops_cons.2 (by decide)
  rw [(takeWhile_dropWhile_iff.2 ⟨rfl, hrun, hstop⟩).1] at hname
  exact ⟨after, by simp [Field.lead, hname]⟩

/-- **Every token that is read has one of the shapes.** -/
theorem Reads.shape (h : Reads cs (some t) rest) : Shape rest t := by
  cases h with
  | fieldWord f hw _ => exact .canonical (.fieldWord f hw)
  | fieldPhrase f hv => exact .canonical (.fieldPhrase f hv)
  | phrase hv => exact .canonical (.phrase hv)
  | word hw _ hno =>
    exact .canonical (.word hw fun hcolon f hname => hno f (lead_prefix_of_takeWhile hcolon hname))
  | strayField f _ => exact .strayField f rfl
  | strayQuote hw hq _ => exact .strayQuote hw hq

theorem isUnclosed_of_isBare (hw : ∀ c ∈ w, isBare c = true) (value : List Char) :
    (token w value none false).isUnclosed = false := by
  have hquote := quote_notMem_of_isBare hw
  cases w with
  | nil => simp [Token.isUnclosed]
  | cons c w =>
    have hc : '"' ≠ c := fun h => hquote (h ▸ List.mem_cons_self)
    simp [Token.isUnclosed, hc.symm]

/-- **A reading takes quotes in pairs** unless it takes the last one alone. -/
theorem Reads.countP_isUnclosed (h : Reads cs o rest) :
    o.toList.countP (·.isUnclosed) + rest.count '"' % 2 = cs.count '"' % 2 := by
  cases h with
  | fieldWord f hw _ =>
    have hcount := count_quote_of_notMem (quote_notMem_of_isBare hw.2)
    simp [Token.isUnclosed, token, List.count_append, count_quote_lead, hcount]
  | fieldPhrase f hv =>
    simp [Token.isUnclosed, token, List.count_append, count_quote_lead, count_quote_inQuotes hv.1]
  | emptyField f _ => simp [List.count_append, count_quote_lead]
  | phrase hv =>
    simp [Token.isUnclosed, token, List.count_append, count_quote_inQuotes hv.1]
  | blankQuotes hv =>
    simp [List.count_append, count_quote_inQuotes (quote_notMem_of_blank hv)]
  | word hw _ _ =>
    have hcount := count_quote_of_notMem (quote_notMem_of_isBare hw.2)
    simp [isUnclosed_of_isBare hw.2, List.count_append, hcount]
  | strayField f _ =>
    simp [isUnclosed_of_isBare fun _ => isBare_of_mem_lead, List.count_append, count_quote_lead]
  | @strayQuote w rest _ hq _ =>
    -- no quote is left behind it, so it was the last one
    have hrest : rest.count '"' = 0 := count_quote_of_notMem fun h => hq (List.mem_append_right _ h)
    rw [List.count_cons_self, count_quote_of_notMem hq, hrest]
    simp [Token.isUnclosed, token]

/-- **So a text with an odd number of quotes has one token with a stray quote**, and
any other has none. -/
theorem ReadsAll.countP_isUnclosed (h : ReadsAll cs ts) :
    ts.countP (·.isUnclosed) = cs.count '"' % 2 := by
  induction h with
  | done => rfl
  | skip hc _ ih => rw [ih, List.count_cons_of_ne (quote_ne_of_isBlank hc).symm]
  | read hreads _ ih => rw [List.countP_append, ih, hreads.countP_isUnclosed]

end Readings

section Places

variable {q after : List Char} {t : Token} {s : Span}

theorem Shape.value_eq (h : Shape after t) (hfield : t.field = none)
    (hphrase : t.isPhrase = false) : t.value = t.raw := by
  cases h with
  | canonical h =>
    cases h with
    | word _ _ => rfl
    | phrase _ => exact absurd hphrase (by simp [token])
    | fieldWord _ _ | fieldPhrase _ _ => exact absurd hfield (by simp [token])
  | strayField f _ => rfl
  | strayQuote _ _ => rfl

/-- Only a quote that is never closed stands in front of a token like a word. -/
theorem Reads.lastQuote {cs rest : List Char} (h : Reads cs (some t) rest)
    (hunclosed : t.isUnclosed = true) : ∃ tail, cs = '"' :: tail ∧ '"' ∉ tail := by
  cases h with
  | fieldWord f _ _ | fieldPhrase f _ => exact absurd hunclosed (by simp [Token.isUnclosed, token])
  | phrase _ => exact absurd hunclosed (by simp [Token.isUnclosed, token])
  | word hw _ _ => exact absurd hunclosed (by simp [isUnclosed_of_isBare hw.2])
  | strayField f _ =>
    exact absurd hunclosed (by simp [isUnclosed_of_isBare fun _ => isBare_of_mem_lead])
  | strayQuote _ hq _ => exact ⟨_, rfl, hq⟩

/-- **Every token has a known shape, and every quote its partner.** The tokens of a
query stand at places that cover it but for gaps. Each is a word or a phrase, in one
field or in all, or a field before a quote, or a word behind the last quote of the
query; one of the last kind is there just when the quotes are odd in number, and then
it is the only one. -/
theorem exists_places_tokenize (q : String) :
    ∃ places : List (Token × Span),
      places.map (·.1) = tokenize q ∧ Covers q.toList 0 (places.map (·.2)) ∧
      (∀ p ∈ places, Placed q.toList p.1 p.2) ∧
      (tokenize q).countP (·.isUnclosed) = q.toList.count '"' % 2 := by
  have hreads := readsAll_tokens q.toList
  obtain ⟨places, htokens, hcovers, hplaces⟩ := hreads.exists_places 0 (Nat.zero_le _) rfl
  refine ⟨places, htokens, hcovers, fun p hp => ?_, hreads.countP_isUnclosed⟩
  obtain ⟨hraw, hread⟩ := hplaces p hp
  exact ⟨hraw, hread.shape, hread.lastQuote, hread.shape.value_eq⟩

end Places

end Bibliography.Query
