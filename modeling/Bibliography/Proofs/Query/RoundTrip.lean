import Bibliography.Proofs.Query.Reading
/-!
# Tokens that are read back

A `Canonical` token is written the way it is read: a word, a phrase, or one
of them in a field. Written one after the other with blanks between them
(`spell`), such tokens are what the text is read as: `tokenize_spell`. The
reader looks far ahead for colons and closing quotes, so the step of the
proof (`Canonical.reads`) is that it never finds one of a later token.
-/

namespace Bibliography.Query

open Text (isBlank blank)

/-- A token that is written as it is read. -/
inductive Canonical : Token → Prop
  /-- A word. If it holds a colon, no field's name stands before the first. -/
  | word {w : List Char} :
      IsWord w → (':' ∈ w → ∀ f : Field, w.takeWhile (· != ':') ≠ f.name.toList) →
      Canonical (token w w none false)
  /-- A phrase. -/
  | phrase {v : List Char} : IsPhrase v → Canonical (token (inQuotes v) v none true)
  /-- A word in one field. -/
  | fieldWord (f : Field) {w : List Char} :
      IsWord w → Canonical (token (f.lead ++ w) w (some f) false)
  /-- A phrase in one field. -/
  | fieldPhrase (f : Field) {v : List Char} :
      IsPhrase v → Canonical (token (f.lead ++ inQuotes v) v (some f) true)

/-- The text that starts with some blanks and goes on with tokens, each with
the blanks behind it. -/
def spell (front : String) (items : List (Token × String)) : String :=
  front ++ String.join (items.map fun (t, gap) => t.raw ++ gap)

section Steps

variable {g cs rest : List Char} {t : Token} {ts : List Token} {f : Field}

/-- A word that starts with a field holds its name before a colon. -/
theorem takeWhile_of_lead_prefix {w : List Char} (h : f.lead <+: w) :
    ':' ∈ w ∧ w.takeWhile (· != ':') = f.name.toList := by
  obtain ⟨m, rfl⟩ := h
  have hname : ∀ c ∈ f.name.toList, (c != ':') = true := by
    intro c hc
    have hchar := isNameChar_of_mem_name hc
    simp only [isNameChar, Bool.and_eq_true] at hchar
    exact hchar.1
  have hsplit : f.lead ++ m = f.name.toList ++ ':' :: m := by simp [Field.lead]
  have hstop : Stops (· != ':') (':' :: m) := stops_cons.2 (by decide)
  rw [hsplit]
  exact ⟨by simp, (takeWhile_dropWhile_iff.2 ⟨rfl, hname, hstop⟩).1⟩

/-- **A canonical token is read from its source**, whatever stands behind
the next blank. -/
theorem Canonical.reads (h : Canonical t) (hrest : Stops (!isBlank ·) rest) :
    Reads (t.raw.toList ++ rest) (some t) rest := by
  cases h with
  | word hw hcolon =>
    rw [raw_token]
    refine .word hw (stops_isBare hrest) fun f hf => ?_
    obtain ⟨hmem, hname⟩ := takeWhile_of_lead_prefix hf
    exact hcolon hmem f hname
  | phrase hv =>
    rw [raw_token]
    exact .phrase hv
  | fieldWord f hw =>
    rw [raw_token]
    exact .fieldWord f hw (stops_isBare hrest)
  | fieldPhrase f hv =>
    rw [raw_token]
    exact .fieldPhrase f hv

/-- Blanks in front change nothing. -/
theorem ReadsAll.blanks (hg : blank g = true) (h : ReadsAll cs ts) : ReadsAll (g ++ cs) ts := by
  induction g with
  | nil => exact h
  | cons c g ih =>
    simp only [blank, List.all_cons, Bool.and_eq_true] at hg
    exact .skip hg.1 (ih hg.2)

/-- A gap that is not empty stops a word. -/
theorem stops_of_blank (hg : blank g = true) (hne : g ≠ []) : Stops (!isBlank ·) (g ++ cs) := by
  obtain ⟨c, g, rfl⟩ := List.exists_cons_of_ne_nil hne
  simp only [blank, List.all_cons, Bool.and_eq_true] at hg
  exact stops_cons.2 (by simp [hg.1])

end Steps

section Spelling

variable {front : String} {items : List (Token × String)}

/-- Tokens with gaps between them are read one by one. -/
theorem readsAll_flatMap (hcanonical : ∀ x ∈ items, Canonical x.1)
    (hblank : ∀ x ∈ items, isBlankText x.2) (hsep : ∀ x ∈ items.dropLast, x.2 ≠ "") :
    ReadsAll (items.flatMap fun x => x.1.raw.toList ++ x.2.toList) (items.map (·.1)) := by
  induction items with
  | nil => exact .done
  | cons x items ih =>
    obtain ⟨t, gap⟩ := x
    have hgap : blank gap.toList = true := hblank (t, gap) List.mem_cons_self
    have hrest := ih (fun y hy => hcanonical y (List.mem_cons_of_mem _ hy))
      (fun y hy => hblank y (List.mem_cons_of_mem _ hy)) fun y hy => hsep y (by
        cases items with
        | nil => simp at hy
        | cons z items => exact List.mem_cons_of_mem _ hy)
    have hstop : Stops (!isBlank ·)
        (gap.toList ++ items.flatMap fun x => x.1.raw.toList ++ x.2.toList) := by
      by_cases hne : gap.toList = []
      · -- only the last token may have no gap behind it
        cases items with
        | nil => simp [hne]
        | cons z items => exact absurd (by simpa using hne) (hsep (t, gap) (by simp))
      · exact stops_of_blank hgap hne
    have hreads := (hcanonical (t, gap) List.mem_cons_self).reads hstop
    rw [List.flatMap_cons, List.append_assoc]
    exact .read hreads (hrest.blanks hgap)

theorem toList_spell :
    (spell front items).toList =
      front.toList ++ items.flatMap fun x => x.1.raw.toList ++ x.2.toList := by
  simp [spell, String.toList_join, List.flatMap_map]

/-- **What is written is read back.** Canonical tokens, written one after
the other with blanks around them and at least one between two of them, are
the tokens of the text. -/
theorem tokenize_spell (hcanonical : ∀ x ∈ items, Canonical x.1) (hfront : isBlankText front)
    (hblank : ∀ x ∈ items, isBlankText x.2) (hsep : ∀ x ∈ items.dropLast, x.2 ≠ "") :
    tokenize (spell front items) = items.map (·.1) := by
  have hreads := (readsAll_flatMap hcanonical hblank hsep).blanks hfront
  rw [tokenize, toList_spell]
  exact readsAll_iff.1 hreads

/-- A word with a colon, a phrase that looks like a field, a field whose
value does, and a phrase in a field. -/
def mixedTokens : List (Token × String) :=
  [(token "a:b".toList "a:b".toList none false, " "),
    (token (inQuotes "doi: x".toList) "doi: x".toList none true, "\t\n"),
    (token (Field.author.lead ++ "year:c".toList) "year:c".toList (some .author) false, "  "),
    (token (Field.title.lead ++ inQuotes "x y".toList) "x y".toList (some .title) true, "")]

theorem canonical_mixedTokens : ∀ x ∈ mixedTokens, Canonical x.1 := by
  intro x hx
  simp only [mixedTokens, List.mem_cons, List.not_mem_nil, or_false] at hx
  rcases hx with rfl | rfl | rfl | rfl
  · exact .word (by decide) fun _ f => by cases f <;> decide
  · exact .phrase (by decide)
  · exact .fieldWord .author (by decide)
  · exact .fieldPhrase .title (by decide)

theorem tokenize_spell_mixedTokens :
    ((∀ x ∈ mixedTokens, Canonical x.1) ∧ isBlankText " " ∧ (∀ x ∈ mixedTokens, isBlankText x.2) ∧
      ∀ x ∈ mixedTokens.dropLast, x.2 ≠ "") ∧
    tokenize (spell " " mixedTokens) = mixedTokens.map (·.1) :=
  ⟨⟨canonical_mixedTokens, by decide, by decide, by decide⟩,
    tokenize_spell canonical_mixedTokens (by decide) (by decide) (by decide)⟩

end Spelling

end Bibliography.Query
