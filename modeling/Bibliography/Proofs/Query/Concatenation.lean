import Bibliography.Proofs.Query.Reading
/-!
# Queries side by side

Two queries with a blank between them are read as the tokens of the first
and then those of the second, unless a quote that the first leaves open
meets one of the second. `QuotesApart` is the condition, every reading keeps
it (`QuotesApart.of_reads`), and under it a reading takes nothing from behind
the blank (`Reads.append`).
-/

namespace Bibliography.Query

open Text (isBlank blank)

/-- No quote is opened in `a` and closed in `b`: those of `a` come in pairs,
or `b` has none. -/
def QuotesApart (a b : List Char) : Prop :=
  a.count '"' % 2 = 0 ∨ '"' ∉ b

section Quotes

variable {a b cs v rest : List Char} {w : Char} {t : Option Token} {f : Field}

theorem quote_ne_of_isBlank (hw : isBlank w = true) : '"' ≠ w := by
  rintro rfl
  exact absurd hw (by decide)

theorem count_quote_of_notMem (h : '"' ∉ cs) : cs.count '"' = 0 :=
  List.count_eq_zero.2 h

theorem count_quote_lead : f.lead.count '"' = 0 :=
  count_quote_of_notMem (quote_notMem_of_isBare fun _ => isBare_of_mem_lead)

theorem count_quote_inQuotes (hv : '"' ∉ v) : (inQuotes v).count '"' = 2 := by
  simp [inQuotes, count_quote_of_notMem hv]

/-- A quote that opens no phrase still opens none with more text behind,
when none of its quotes is missing there. -/
theorem OpensNoPhrase.append (hw : isBlank w = true) (hq : '"' ∈ rest ∨ '"' ∉ b)
    (h : OpensNoPhrase rest) : OpensNoPhrase (rest ++ w :: b) := by
  intro v after hsplit hv
  by_cases hrest : '"' ∈ rest
  · -- the first quote stands in `rest`, so it is the one found there
    obtain ⟨v', after', rfl, hv'⟩ := List.eq_append_cons_of_mem hrest
    have hsplit' : v' ++ '"' :: (after' ++ w :: b) = v ++ '"' :: after := by
      rw [← hsplit, List.append_assoc, List.cons_append]
    have hfound := untilQuote?_eq_some_iff.2 ⟨hsplit', hv⟩
    rw [untilQuote?_eq_some_iff.2 ⟨rfl, hv'⟩] at hfound
    cases hfound
    exact h v after' rfl hv
  · -- a quote found here would be one of `b`
    have hb : '"' ∉ b := hq.resolve_left hrest
    have hmem : '"' ∈ rest ++ w :: b := by simp [hsplit]
    simp [hrest, hb, quote_ne_of_isBlank hw] at hmem

/-- **Quotes stay apart**: a reading takes them in pairs, and one that does
not was alone. -/
theorem QuotesApart.of_reads (h : QuotesApart cs b) (hr : Reads cs t rest) : QuotesApart rest b := by
  rcases h with heven | hb
  · refine .inl ?_
    cases hr with
    | fieldWord f hw _ =>
      have hcount := count_quote_of_notMem (quote_notMem_of_isBare hw.2)
      simp only [List.count_append, count_quote_lead] at heven
      omega
    | fieldPhrase f hv =>
      have hcount := count_quote_inQuotes hv.1
      simp only [List.count_append, count_quote_lead] at heven
      omega
    | emptyField f _ =>
      simp only [List.count_append, count_quote_lead] at heven
      omega
    | phrase hv =>
      have hcount := count_quote_inQuotes hv.1
      rw [List.count_append] at heven
      omega
    | blankQuotes hv =>
      have hcount := count_quote_inQuotes (quote_notMem_of_blank hv)
      rw [List.count_append] at heven
      omega
    | word hw _ _ =>
      have hcount := count_quote_of_notMem (quote_notMem_of_isBare hw.2)
      rw [List.count_append] at heven
      omega
    | strayField f _ =>
      rw [List.count_append, count_quote_lead] at heven
      omega
    | strayQuote _ hq _ =>
      rw [List.count_cons_self, count_quote_of_notMem hq] at heven
      omega
  · exact .inr hb

/-- **A reading takes nothing from behind a blank.** -/
theorem Reads.append (hr : Reads a t rest) (hw : isBlank w = true) (h : QuotesApart a b) :
    Reads (a ++ w :: b) t (rest ++ w :: b) := by
  have hstop : Stops (!isBlank ·) (w :: b) := stops_cons.2 (by simp [hw])
  cases hr with
  | fieldWord f hword hrest =>
    rw [List.append_assoc]
    exact .fieldWord f hword (hrest.append (stops_isBare hstop))
  | fieldPhrase f hv =>
    rw [List.append_assoc]
    exact .fieldPhrase f hv
  | emptyField f hrest =>
    rw [List.append_assoc]
    exact .emptyField f (hrest.append hstop)
  | phrase hv =>
    rw [List.append_assoc]
    exact .phrase hv
  | blankQuotes hv =>
    rw [List.append_assoc]
    exact .blankQuotes hv
  | word hword hrest hno =>
    rw [List.append_assoc]
    exact .word hword (hrest.append (stops_isBare hstop)) hno
  | @strayField f tail hno =>
    rw [List.append_assoc, List.cons_append]
    refine .strayField f (hno.append hw ?_)
    -- the stray quote is one of an even number, so it is not the last
    rcases h with heven | hb
    · refine .inl (Classical.byContradiction fun htail => ?_)
      rw [List.count_append, count_quote_lead, List.count_cons_self,
        count_quote_of_notMem htail] at heven
      omega
    · exact .inr hb
  | strayQuote hword hq hrest =>
    -- here it is the last one, so their number is odd
    have hb : '"' ∉ b := by
      rcases h with heven | hb
      · rw [List.count_cons_self, count_quote_of_notMem hq] at heven
        omega
      · exact hb
    rw [List.cons_append, List.append_assoc]
    refine .strayQuote hword ?_ (hrest.append hstop)
    rw [← List.append_assoc]
    simp only [List.mem_append, List.mem_cons, not_or] at hq ⊢
    exact ⟨hq, quote_ne_of_isBlank hw, hb⟩

end Quotes

section Tokens

variable {a b : List Char} {w : Char} {ts us : List Token}

/-- **So do all the readings of a text**, and those of the text behind the
blank follow them. -/
theorem ReadsAll.append (hts : ReadsAll a ts) (hus : ReadsAll b us) (hw : isBlank w = true)
    (h : QuotesApart a b) : ReadsAll (a ++ w :: b) (ts ++ us) := by
  induction hts with
  | done => exact .skip hw hus
  | @skip c cs ts hc _ ih =>
    have hapart : QuotesApart cs b := by
      simpa [QuotesApart, (quote_ne_of_isBlank hc).symm] using h
    exact .skip hc (ih hapart)
  | read hreads _ ih =>
    rw [List.append_assoc]
    exact .read (hreads.append hw h) (ih (h.of_reads hreads))

theorem tokens_append_blank (hw : isBlank w = true) (h : QuotesApart a b) :
    tokens (a ++ w :: b) = tokens a ++ tokens b :=
  readsAll_iff.1 ((readsAll_tokens a).append (readsAll_tokens b) hw h)

/-- **Tokens are read side by side.** Where `a` has its quotes in pairs or
`b` has none, whatever else the two hold, the tokens of `a` and `b` with a
blank between them are those of `a` and then those of `b`. -/
theorem tokenize_append_blank (a b : String) (w : Char) (hw : isBlank w = true)
    (h : a.toList.count '"' % 2 = 0 ∨ '"' ∉ b.toList) :
    tokenize (a ++ String.singleton w ++ b) = tokenize a ++ tokenize b := by
  have hlist : (a ++ String.singleton w ++ b).toList = a.toList ++ w :: b.toList := by
    simp
  rw [tokenize, hlist, tokens_append_blank hw h]
  rfl

/-- A field without a value and a quote without an end take nothing from
the query behind them. -/
theorem tokenize_append_blank_unclosed :
    isBlank '\t' = true ∧
      ("title:\"\" doi: \"a".toList.count '"' % 2 = 0 ∨ '"' ∉ "year:1999 b:c".toList) ∧
      tokenize ("title:\"\" doi: \"a" ++ String.singleton '\t' ++ "year:1999 b:c") =
        tokenize "title:\"\" doi: \"a" ++ tokenize "year:1999 b:c" :=
  ⟨by decide, by decide, tokenize_append_blank _ _ _ (by decide) (by decide)⟩

end Tokens

end Bibliography.Query
