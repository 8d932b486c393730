import Bibliography.Proofs.Order.Relevance
import Bibliography.Proofs.Search.TokenOrder
/-!
# Scores

An exact hit starts fifty ahead of a partial one, and every token counts one. So
the scores keep the strengths apart as long as no query has fifty tokens more
than the other (`score_lt_score_iff`); a word asked for often enough makes a
partial hit score as much as an exact one (`score_manyWords`). The hits of one query
have as many tokens as each other, so scores and ranking agree on them
(`pairwise_score_ranked`).
-/

namespace Bibliography.Match

open Query (Token)

section Scores

variable {ts us : List Token} {e e' : Entry} {h x y : Hit} {t : Token} {found : List Found} {n : Nat}

theorem score_of_exact (hs : h.strength = .exact) : h.score = 100 + h.tokens.length := by
  rw [Hit.score, if_pos hs]

theorem score_of_inPart (hs : h.strength = .inPart) : h.score = 50 + h.tokens.length := by
  rw [Hit.score, if_neg (by simp [hs])]

/-- A hit holds as many tokens as were asked for, and there are some. -/
theorem length_tokens_of_hit? (hhit : hit? ts e = .ok (some h)) :
    h.tokens.length = ts.length ∧ 0 < ts.length := by
  obtain ⟨hne, -, htokens, -⟩ := hit?_eq_some_iff.1 hhit
  exact ⟨by rw [← htokens, List.length_map], List.length_pos_iff.2 hne⟩

/-- **How the scores of hits compare.** A hit is exact or partial. An exact one
scores more than a hundred and a partial one more than fifty, and this stays
below a hundred just when there are less than fifty tokens. An exact hit scores
more than a partial one, of whatever records and queries, unless that has fifty
tokens more. -/
theorem score_lt_score_iff (hx : hit? ts e = .ok (some x)) (hy : hit? us e' = .ok (some y)) :
    (x.strength = .exact ∨ x.strength = .inPart) ∧
      (x.strength = .exact → 100 < x.score) ∧
      (x.strength = .inPart → 50 < x.score ∧ (x.score < 100 ↔ ts.length < 50)) ∧
      (x.strength = .exact → y.strength = .inPart →
        (y.score < x.score ↔ us.length < ts.length + 50)) := by
  obtain ⟨hlength, hpos⟩ := length_tokens_of_hit? hx
  obtain ⟨hlength', -⟩ := length_tokens_of_hit? hy
  have hne : x.tokens ≠ [] := List.length_pos_iff.1 (by omega)
  refine ⟨strength_eq_or hne, fun hs => ?_, fun hs => ?_, fun hs hs' => ?_⟩
  · rw [score_of_exact hs]
    omega
  · rw [score_of_inPart hs]
    omega
  · rw [score_of_exact hs, score_of_inPart hs']
    omega

/-- **A token asked for again and again** finds the same each time. The hit is as
strong as once, and counts each time. -/
theorem exists_hit?_replicate (n : Nat) (ht : ofToken t e.record = .ok found) (hfull : found ≠ []) :
    ∃ h, hit? (List.replicate (n + 1) t) e = .ok (some h) ∧
      h.strength = (⟨t, found⟩ : TokenMatch).strength ∧ h.tokens.length = n + 1 := by
  let m : TokenMatch := ⟨t, found⟩
  let h : Hit := ⟨e, List.replicate (n + 1) m⟩
  have hmem : ∀ m', m' ∈ h.tokens ↔ m' = m := by simp [h]
  have hhit : hit? (List.replicate (n + 1) t) e = .ok (some h) := by
    refine hit?_eq_some_iff.2 ⟨by simp, rfl, List.map_replicate, fun m' hm => ?_⟩
    rw [(hmem m').1 hm]
    exact ⟨ht, hfull⟩
  -- the hit is as strong as that of the token once, since both hold the same
  have hstrength : h.strength = m.strength := by
    have hsingle : (⟨e, [m]⟩ : Hit).strength = m.strength := by
      simp only [Hit.strength, List.foldl_cons, List.foldl_nil, Hit.raise, TokenMatch.strength]
      split <;> simp_all
    rw [← hsingle]
    exact strength_congr (by simpa using hmem) (by simp [h]) (by simp)
  exact ⟨h, hhit, hstrength, List.length_replicate⟩

/-- A record of one word and a year. -/
def wordOfYear : Entry :=
  ⟨0, ⟨[("title", .str "a"), ("issued", .obj [("date-parts", .arr [.arr [.int 2020]])])]⟩⟩

/-- The word. -/
def itsWord : Token :=
  ⟨"a", "a", none, false⟩

/-- The year. -/
def itsYear : Token :=
  ⟨"year:2020", "2020", some .year, false⟩

/-- The word alone makes a partial hit, of as many points above fifty as it is
asked for. -/
theorem exists_hit?_itsWord (n : Nat) :
    ∃ h, hit? (List.replicate (n + 1) itsWord) wordOfYear = .ok (some h) ∧
      h.strength = .inPart ∧ h.score = 51 + n := by
  have hfound : ofToken itsWord wordOfYear.record = .ok [⟨"title", .inPart, "a"⟩] := by
    decide +kernel
  obtain ⟨h, hhit, hstrength, hlength⟩ := exists_hit?_replicate n hfound (by simp)
  have hs : h.strength = .inPart := hstrength
  exact ⟨h, hhit, hs, by rw [score_of_inPart hs, hlength]; omega⟩

/-- The year makes an exact one. -/
theorem exists_hit?_itsYear :
    ∃ h, hit? [itsYear] wordOfYear = .ok (some h) ∧ h.strength = .exact ∧ h.score = 101 := by
  have hfound : ofToken itsYear wordOfYear.record = .ok [⟨"year", .exact, "2020"⟩] := by
    decide +kernel
  obtain ⟨h, hhit, hstrength, hlength⟩ := exists_hit?_replicate 0 hfound (by simp)
  have hs : h.strength = .exact := hstrength
  exact ⟨h, hhit, hs, by rw [score_of_exact hs, hlength]⟩

/-- The year leads unless the word is asked for fifty times more. -/
theorem score_lt_score_iff_fiftyWords :
    ∃ x y, hit? [itsYear] wordOfYear = .ok (some x) ∧
      hit? (List.replicate 50 itsWord) wordOfYear = .ok (some y) ∧
      x.strength = .exact ∧ y.strength = .inPart ∧ y.score < x.score := by
  obtain ⟨x, hx, hs, -⟩ := exists_hit?_itsYear
  obtain ⟨y, hy, hs', -⟩ := exists_hit?_itsWord 49
  obtain ⟨-, -, -, hlt⟩ := score_lt_score_iff hx hy
  exact ⟨x, y, hx, hy, hs, hs', (hlt hs hs').2 (by simp)⟩

/-- **A word that is asked for often enough scores as a year does.** -/
theorem score_manyWords :
    ∃ x y z, hit? [itsYear] wordOfYear = .ok (some x) ∧
      hit? (List.replicate 50 itsWord) wordOfYear = .ok (some y) ∧
      hit? (List.replicate 51 itsWord) wordOfYear = .ok (some z) ∧
      x.strength = .exact ∧ y.strength = .inPart ∧ z.strength = .inPart ∧
      ¬ y.score < 100 ∧ ¬ z.score < x.score := by
  obtain ⟨x, hx, hs, hscore⟩ := exists_hit?_itsYear
  obtain ⟨y, hy, hs', hscore'⟩ := exists_hit?_itsWord 49
  obtain ⟨z, hz, hs'', hscore''⟩ := exists_hit?_itsWord 50
  exact ⟨x, y, z, hx, hy, hz, hs, hs', hs'', by omega, by omega⟩

end Scores

/-! ## Along the ranking -/

section Ranking

variable {ts : List Token} {e : Entry} {es : List Entry} {h : Hit} {hs ranked : List Hit}

theorem Strength.rank_inj {s s' : Strength} : s.rank = s'.rank ↔ s = s' := by
  cases s <;> cases s' <;> decide

/-- The score of a hit tells its strength and how many tokens were asked for. -/
theorem score_of_hit? (hhit : hit? ts e = .ok (some h)) :
    h.score = 50 * h.strength.rank + ts.length := by
  obtain ⟨hlength, hpos⟩ := length_tokens_of_hit? hhit
  have hne : h.tokens ≠ [] := List.length_pos_iff.1 (by omega)
  rcases strength_eq_or hne with hs | hs
  · rw [score_of_exact hs, hs, hlength, Strength.rank]
  · rw [score_of_inPart hs, hs, hlength, Strength.rank]

/-- **Ranking and scores agree.** Where the hits of a query are ranked, no score is
below one that stands behind it, and two of the hits have one score just when they
are as strong. -/
theorem pairwise_score_ranked (hhits : hits ts es = .ok hs)
    (hranked : Order.sortByRelevance (·.strength) (·.entry.record) hs = .ok ranked) :
    ranked.Perm hs ∧ ranked.Pairwise (fun x y => y.score ≤ x.score) ∧
      ∀ x ∈ hs, ∀ y ∈ hs, (x.score = y.score ↔ x.strength = y.strength) := by
  have hscore : ∀ x ∈ hs, x.score = 50 * x.strength.rank + ts.length :=
    fun x hx => score_of_hit? (hit?_of_mem hhits hx).2
  have harranged := Order.arrangedBy_sortByRelevance hranked
  refine ⟨harranged.perm, ?_, fun x hx y hy => ?_⟩
  · -- strength is the first level of the order of relevance
    have hrank : ranked.Pairwise fun x y => y.strength.rank ≤ x.strength.rank := by
      refine (harranged.imp fun x y hxy => ?_).pairwise
      rcases hxy with hlt | ⟨hle, -⟩
      · exact Nat.le_of_lt hlt
      · exact Nat.le_of_not_lt hle
    refine hrank.imp_of_mem fun hx hy hle => ?_
    rw [hscore _ (harranged.perm.mem_iff.1 hx), hscore _ (harranged.perm.mem_iff.1 hy)]
    omega
  · rw [hscore x hx, hscore y hy, ← Strength.rank_inj]
    omega

/-- A number that may be a year. -/
def itsNumber : Token :=
  ⟨"2020", "2020", none, false⟩

/-- A record that has the number in its title. -/
def numberInTitle : Hit :=
  ⟨⟨0, ⟨[("title", .str "2020")]⟩⟩, [⟨itsNumber, [⟨"title", .inPart, "2020"⟩]⟩]⟩

/-- A record of that year. -/
def numberAsYear : Hit :=
  ⟨⟨1, ⟨[("issued", .obj [("date-parts", .arr [.arr [.int 2020]])])]⟩⟩,
    [⟨itsNumber, [⟨"year", .exact, "2020"⟩]⟩]⟩

/-- The record of the year comes first, and scores more. -/
theorem pairwise_score_ranked_number :
    hits [itsNumber] [numberInTitle.entry, numberAsYear.entry] =
        .ok [numberInTitle, numberAsYear] ∧
      Order.sortByRelevance (·.strength) (·.entry.record) [numberInTitle, numberAsYear] =
        .ok [numberAsYear, numberInTitle] ∧
      numberInTitle.score ≤ numberAsYear.score ∧
      (numberInTitle.score = numberAsYear.score ↔ numberInTitle.strength = numberAsYear.strength) ∧
      numberInTitle.strength ≠ numberAsYear.strength := by
  have htitle : hit? [itsNumber] numberInTitle.entry = .ok (some numberInTitle) := by
    refine hit?_eq_some_iff.2 ⟨by simp, rfl, rfl, ?_⟩
    decide +kernel
  have hyear : hit? [itsNumber] numberAsYear.entry = .ok (some numberAsYear) := by
    refine hit?_eq_some_iff.2 ⟨by simp, rfl, rfl, ?_⟩
    decide +kernel
  have hhits : hits [itsNumber] [numberInTitle.entry, numberAsYear.entry] =
      .ok [numberInTitle, numberAsYear] :=
    bind_eq_ok_iff.2 ⟨[some numberInTitle, some numberAsYear],
      mapM_eq_ok_iff.2 (by simp [htitle, hyear]), rfl⟩
  have hranked : Order.sortByRelevance (·.strength) (·.entry.record)
      [numberInTitle, numberAsYear] = .ok [numberAsYear, numberInTitle] := by
    have hlast : Order.Relevance.of numberInTitle.strength numberInTitle.entry.record =
        .ok ⟨1, 0, "", "2020"⟩ := rfl
    have hfirst : Order.Relevance.of numberAsYear.strength numberAsYear.entry.record =
        .ok ⟨2, 2020, "", ""⟩ := rfl
    exact Eq.trans (Order.sortByRelevance_pair hlast hfirst) rfl
  obtain ⟨-, hscores, hsame⟩ := pairwise_score_ranked hhits hranked
  exact ⟨hhits, hranked, by simpa using hscores, hsame _ (by simp) _ (by simp), by decide⟩

end Ranking

end Bibliography.Match
