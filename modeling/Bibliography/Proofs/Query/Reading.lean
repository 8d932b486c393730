import Bibliography.Proofs.Query.Parts
/-!
# What one reading takes

`Reads` lists the ways in which the reader can go on from the front of a
text. Four give the token that was meant, two give a word where a quote has
gone astray, and two give nothing. `readToken_eq_iff` says that the reader
does just that, and `readsAll_iff` says it of a whole text, so that a law of
the tokenizer is an induction over `ReadsAll` with a look at each way of
`Reads`.
-/

namespace Bibliography.Query

open Text (isBlank blank)

/-! ## One reading -/

/-- **The ways to read on from the front of a text**: what is read, if it is
a token, and what is left. -/
inductive Reads : List Char → Option Token → List Char → Prop
  /-- A word in one field. -/
  | fieldWord (f : Field) {w rest : List Char} :
      IsWord w → Stops isBare rest →
      Reads (f.lead ++ w ++ rest) (some (token (f.lead ++ w) w (some f) false)) rest
  /-- A phrase in one field. -/
  | fieldPhrase (f : Field) {v rest : List Char} :
      IsPhrase v →
      Reads (f.lead ++ inQuotes v ++ rest) (some (token (f.lead ++ inQuotes v) v (some f) true)) rest
  /-- A field without a value is passed over. -/
  | emptyField (f : Field) {rest : List Char} :
      Stops (!isBlank ·) rest → Reads (f.lead ++ rest) none rest
  /-- A phrase in all fields. -/
  | phrase {v rest : List Char} :
      IsPhrase v → Reads (inQuotes v ++ rest) (some (token (inQuotes v) v none true)) rest
  /-- Quotes around nothing are passed over. -/
  | blankQuotes {v rest : List Char} :
      blank v = true → Reads (inQuotes v ++ rest) none rest
  /-- A word in all fields. -/
  | word {w rest : List Char} :
      IsWord w → Stops isBare rest → (∀ f : Field, ¬ f.lead <+: w) →
      Reads (w ++ rest) (some (token w w none false)) rest
  /-- A field before a quote that opens no phrase is itself a word. -/
  | strayField (f : Field) {rest : List Char} :
      OpensNoPhrase rest →
      Reads (f.lead ++ '"' :: rest) (some (token f.lead f.lead none false)) ('"' :: rest)
  /-- A quote that is never closed starts a word. -/
  | strayQuote {w rest : List Char} :
      (∀ c ∈ w, isBlank c = false) → '"' ∉ w ++ rest → Stops (!isBlank ·) rest →
      Reads ('"' :: (w ++ rest)) (some (token ('"' :: w) ('"' :: w) none false)) rest

section Reads

variable {c : Char} {cs rest : List Char} {t : Option Token}

/-- A text that starts with a quote starts with no field. -/
theorem readFieldValue?_quote : readFieldValue? ('"' :: rest) = none := by
  refine readFieldValue?_eq_none fun f tail h => ?_
  have hmem : '"' ∈ f.lead := by
    cases hl : f.lead with
    | nil => exact absurd hl lead_ne_nil
    | cons c l =>
      rw [hl, List.cons_append] at h
      rw [(List.cons.inj h).1]
      exact List.mem_cons_self
  exact absurd (isBare_of_mem_lead hmem) (by decide)

/-- A word holds the field that it starts with. -/
theorem lead_prefix_of_append_eq {f : Field} {w tail : List Char} (hrest : Stops isBare rest)
    (h : w ++ rest = f.lead ++ tail) : f.lead <+: w := by
  rcases List.append_eq_append_iff.1 h with ⟨m, hm, hr⟩ | ⟨m, rfl, -⟩
  · -- a lead that reached beyond the word would go on with what stops it
    cases m with
    | nil => exact ⟨[], by simpa using hm⟩
    | cons c m =>
      rw [hr] at hrest
      have hc : c ∈ f.lead := by simp [hm]
      exact absurd (isBare_of_mem_lead hc) (by simpa using hrest)
  · exact List.prefix_append _ _

/-- Nothing is read from a blank. -/
theorem Reads.exists_cons (h : Reads cs t rest) : ∃ c tail, cs = c :: tail ∧ isBlank c = false := by
  have hlead : ∀ (f : Field) tail, ∃ c tail', f.lead ++ tail = c :: tail' ∧ isBlank c = false := by
    intro f tail
    cases hl : f.lead with
    | nil => exact absurd hl lead_ne_nil
    | cons c l =>
      exact ⟨c, l ++ tail, rfl, isBlank_eq_false_of_isBare (isBare_of_mem_lead (hl ▸ List.mem_cons_self))⟩
  cases h with
  | fieldWord f _ _ => rw [List.append_assoc]; exact hlead f _
  | fieldPhrase f _ => rw [List.append_assoc]; exact hlead f _
  | emptyField f _ => exact hlead f _
  | phrase _ => exact ⟨'"', _, rfl, by decide⟩
  | blankQuotes _ => exact ⟨'"', _, rfl, by decide⟩
  | @word w _ hw _ _ =>
    obtain ⟨hne, hbare⟩ := hw
    obtain ⟨c, l, rfl⟩ := List.exists_cons_of_ne_nil hne
    exact ⟨c, l ++ rest, rfl, isBlank_eq_false_of_isBare (hbare c List.mem_cons_self)⟩
  | strayField f _ => exact hlead f _
  | strayQuote _ _ _ => exact ⟨'"', _, rfl, by decide⟩

/-- **The reader follows every way.** -/
theorem Reads.readToken_eq (h : Reads cs t rest) : readToken cs = (t, rest) := by
  unfold readToken
  cases h with
  | fieldWord f hw hrest =>
    rw [List.append_assoc, readFieldValue?_lead, readValue?_word hw hrest]
    simp [Field.lead]
  | fieldPhrase f hv =>
    rw [List.append_assoc, readFieldValue?_lead, readValue?_phrase hv]
    simp [Field.lead]
  | emptyField f hrest =>
    rw [readFieldValue?_lead, readValue?_stop hrest]
    rfl
  | phrase hv =>
    rw [readFree_phrase hv, inQuotes_append, readFieldValue?_quote]
    rfl
  | blankQuotes hv =>
    rw [readFree_blank hv, inQuotes_append, readFieldValue?_quote]
    rfl
  | word hw hrest hno =>
    rw [readFieldValue?_eq_none fun f tail h => hno f (lead_prefix_of_append_eq hrest h),
      readFree_word hw hrest]
    rfl
  | strayField f hno =>
    -- the quote that opens no phrase is left, and it ends the word before it
    have hw : IsWord f.lead := ⟨lead_ne_nil, fun c => isBare_of_mem_lead⟩
    rw [readFieldValue?_lead, readValue?_noPhrase hno,
      readFree_word hw (stops_cons.2 (by decide))]
    rfl
  | strayQuote hw hq hrest =>
    rw [readFieldValue?_quote, readFree_unclosed hw hq hrest]
    rfl

/-- After a quote there is a phrase or there is none. -/
theorem opensNoPhrase_or (rest : List Char) :
    OpensNoPhrase rest ∨ ∃ v after, rest = v ++ '"' :: after ∧ IsPhrase v := by
  by_cases h : ∃ v after, rest = v ++ '"' :: after ∧ IsPhrase v
  · exact .inr h
  · refine .inl fun v after hsplit hv => ?_
    cases hblank : blank v with
    | true => rfl
    | false => exact absurd ⟨v, after, hsplit, hv, hblank⟩ h

/-- A bare character starts a word. -/
theorem exists_word (hc : isBare c = true) (cs : List Char) :
    ∃ w rest, c :: cs = w ++ rest ∧ IsWord w ∧ Stops isBare rest := by
  obtain ⟨hsplit, hbare, hrest⟩ := takeWhile_dropWhile_iff.1
    ⟨Eq.refl ((c :: cs).takeWhile isBare), Eq.refl ((c :: cs).dropWhile isBare)⟩
  exact ⟨_, _, hsplit, ⟨by simp [hc], hbare⟩, hrest⟩

/-- A value or its lack is read after a field's name and colon. -/
theorem exists_reads_lead (f : Field) (tail : List Char) : ∃ t rest, Reads (f.lead ++ tail) t rest := by
  cases tail with
  | nil => exact ⟨_, _, .emptyField f stops_nil⟩
  | cons d tail =>
    by_cases hblank : isBlank d = true
    · exact ⟨_, _, .emptyField f (stops_cons.2 (by simpa using hblank))⟩
    by_cases hquote : d = '"'
    · subst hquote
      rcases opensNoPhrase_or tail with hno | ⟨v, after, rfl, hv⟩
      · exact ⟨_, _, .strayField f hno⟩
      · rw [← inQuotes_append, ← List.append_assoc]
        exact ⟨_, _, .fieldPhrase f hv⟩
    · have hbare : isBare d = true := by simp [isBare, hblank, hquote]
      obtain ⟨w, rest, hsplit, hw, hrest⟩ := exists_word hbare tail
      rw [hsplit, ← List.append_assoc]
      exact ⟨_, _, .fieldWord f hw hrest⟩

/-- A quote opens a phrase, encloses blanks, or is never closed. -/
theorem exists_reads_quote (cs : List Char) : ∃ t rest, Reads ('"' :: cs) t rest := by
  cases hq : untilQuote? cs with
  | none =>
    obtain ⟨hsplit, hrun, hrest⟩ := takeWhile_dropWhile_iff.1
      ⟨Eq.refl (cs.takeWhile (!isBlank ·)), Eq.refl (cs.dropWhile (!isBlank ·))⟩
    rw [untilQuote?_eq_none_iff, hsplit] at hq
    rw [hsplit]
    exact ⟨_, _, .strayQuote (fun c hc => by simpa using hrun c hc) hq hrest⟩
  | some found =>
    obtain ⟨v, after⟩ := found
    obtain ⟨rfl, hv⟩ := untilQuote?_eq_some_iff.1 hq
    rw [← inQuotes_append]
    cases hblank : blank v with
    | true => exact ⟨_, _, .blankQuotes hblank⟩
    | false => exact ⟨_, _, .phrase ⟨hv, hblank⟩⟩

/-- **There is always a way**: whatever does not start with a blank is
read. -/
theorem exists_reads (hc : isBlank c = false) (cs : List Char) :
    ∃ t rest, Reads (c :: cs) t rest := by
  by_cases hfield : ∃ (f : Field) (tail : List Char), c :: cs = f.lead ++ tail
  · obtain ⟨f, tail, htail⟩ := hfield
    rw [htail]
    exact exists_reads_lead f tail
  by_cases hquote : c = '"'
  · rw [hquote]
    exact exists_reads_quote cs
  · have hbare : isBare c = true := by simp [isBare, hc, hquote]
    obtain ⟨w, rest, hsplit, hw, hrest⟩ := exists_word hbare cs
    rw [hsplit] at hfield ⊢
    refine ⟨_, _, .word hw hrest fun f hf => hfield ?_⟩
    obtain ⟨m, rfl⟩ := hf
    exact ⟨f, m ++ rest, List.append_assoc ..⟩

/-- **What the reader does is one of the ways, and the only one.** -/
theorem readToken_eq_iff (hc : isBlank c = false) :
    readToken (c :: cs) = (t, rest) ↔ Reads (c :: cs) t rest := by
  constructor
  · intro h
    -- some way fits the text, and the reader has followed that one
    obtain ⟨t', rest', hreads⟩ := exists_reads hc cs
    rw [hreads.readToken_eq] at h
    cases h
    exact hreads
  · exact Reads.readToken_eq

end Reads

/-! ## The whole text -/

/-- The readings that lead through a text, and the tokens that they give. -/
inductive ReadsAll : List Char → List Token → Prop
  /-- The text is over. -/
  | done : ReadsAll [] []
  /-- A blank is passed over. -/
  | skip {c : Char} {cs : List Char} {ts : List Token} :
      isBlank c = true → ReadsAll cs ts → ReadsAll (c :: cs) ts
  /-- One reading, and those of the rest. -/
  | read {t : Option Token} {cs rest : List Char} {ts : List Token} :
      Reads cs t rest → ReadsAll rest ts → ReadsAll cs (t.toList ++ ts)

section Tokens

variable {c : Char} {cs rest : List Char} {t : Option Token} {ts : List Token}

theorem tokens_nil : tokens [] = [] := by
  rw [tokens.eq_def]

theorem tokens_cons :
    tokens (c :: cs) =
      if isBlank c then tokens cs
      else (readToken (c :: cs)).1.toList ++ tokens (readToken (c :: cs)).2 := by
  rw [tokens.eq_def]
  simp

theorem tokens_blank (hc : isBlank c = true) : tokens (c :: cs) = tokens cs := by
  rw [tokens_cons, if_pos hc]

/-- The tokens after one reading are those of the rest. -/
theorem Reads.tokens_eq (h : Reads cs t rest) : tokens cs = t.toList ++ tokens rest := by
  obtain ⟨c, tail, rfl, hc⟩ := h.exists_cons
  rw [tokens_cons, if_neg (by simp [hc]), h.readToken_eq]

theorem readsAll_tokens (cs : List Char) : ReadsAll cs (tokens cs) := by
  induction cs using tokens.induct with
  | case1 => exact tokens_nil ▸ .done
  | case2 c rest hc ih =>
    rw [tokens_blank hc]
    exact .skip hc ih
  | case3 c rest hc found ih =>
    have hreads : Reads (c :: rest) found.1 found.2 :=
      (readToken_eq_iff (by simpa using hc)).1 rfl
    rw [hreads.tokens_eq]
    exact .read hreads ih

/-- **The tokens of a text are those that its readings give.** -/
theorem readsAll_iff : ReadsAll cs ts ↔ tokens cs = ts := by
  constructor
  · intro h
    induction h with
    | done => exact tokens_nil
    | skip hc _ ih => rw [tokens_blank hc, ih]
    | read hreads _ ih => rw [hreads.tokens_eq, ih]
  · rintro rfl
    exact readsAll_tokens cs

end Tokens

end Bibliography.Query
