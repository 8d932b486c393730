import Bibliography.Proofs.Search.Conjunction
/-!
# The order of the tokens

A record is a hit when each token by itself finds something in it
(`ofTokens_eq_some_iff`), and its strength is exact when anything at all that
was found is (`strength_eq_exact_iff`). Neither looks at the order of the
tokens, so tokens in another order make the same hit, with what they found in
that order: `hit?_rearranged`.
-/

namespace Bibliography.Match

open Query (Token)

/-! ## Places of a list -/

/-- What stands at the given places of a list, in the order of the places. -/
def rearranged {α : Type} (places : List Nat) (l : List α) : List α :=
  places.filterMap (l[·]?)

section Places

variable {α β : Type} {places : List Nat} {l : List α} {x : α}

theorem rearranged_range : rearranged (List.range l.length) l = l := by
  induction l with
  | nil => rfl
  | cons x l ih =>
    rw [rearranged, List.length_cons, List.range_succ_eq_map, List.filterMap_cons,
      List.filterMap_map]
    exact congrArg (x :: ·) ih

/-- **All places of a list, in any order, give all that stands in it.** -/
theorem rearranged_perm (h : places.Perm (List.range l.length)) : (rearranged places l).Perm l := by
  have hperm := h.filterMap (l[·]?)
  rwa [← rearranged, ← rearranged, rearranged_range] at hperm

theorem mem_of_mem_rearranged (h : x ∈ rearranged places l) : x ∈ l := by
  obtain ⟨i, -, hi⟩ := List.mem_filterMap.1 h
  exact List.mem_of_getElem? hi

theorem map_rearranged (f : α → β) : (rearranged places l).map f = rearranged places (l.map f) := by
  simp only [rearranged, List.map_filterMap, List.getElem?_map]

end Places

/-! ## Each token by itself -/

section Tokens

variable {r : Record} {ts : List Token} {ms : List TokenMatch} {e : Entry} {h : Hit}

/-- **A record is a hit when each token finds something in it**, and then that
is what the hit holds. -/
theorem ofTokens_eq_some_iff :
    ofTokens r ts = .ok (some ms) ↔
      ms.map (·.token) = ts ∧ ∀ m ∈ ms, ofToken m.token r = .ok m.found ∧ m.found ≠ [] := by
  induction ts generalizing ms with
  | nil =>
    rw [List.map_eq_nil_iff]
    constructor
    · rintro h
      cases h
      simp
    · rintro ⟨rfl, -⟩
      rfl
  | cons t ts ih =>
    constructor
    · intro h
      obtain ⟨found, hfound, -⟩ := bind_eq_ok_iff.1 h
      rw [ofTokens_cons hfound] at h
      split at h
      · cases h
      · next hfull =>
        obtain ⟨rest, hrest, hms⟩ := map_eq_ok_iff.1 h
        obtain ⟨ms', rfl, rfl⟩ := Option.map_eq_some_iff.1 hms
        obtain ⟨htokens, hall⟩ := ih.1 hrest
        -- the first token was passed, so it found something
        refine ⟨by rw [List.map_cons, htokens], List.forall_mem_cons.2 ⟨⟨hfound, ?_⟩, hall⟩⟩
        simpa using hfull
    · rintro ⟨htokens, hall⟩
      cases ms with
      | nil => cases htokens
      | cons m ms =>
        obtain ⟨rfl, hrest⟩ := List.cons.inj htokens
        obtain ⟨⟨hfound, hfull⟩, hall⟩ := List.forall_mem_cons.1 hall
        rw [ofTokens_cons hfound, if_neg (by simpa using hfull), ih.2 ⟨hrest, hall⟩]
        rfl

/-- Where every token finds something, the record is a hit. -/
theorem exists_ofTokens_eq_some (h : ∀ t ∈ ts, ∃ found, ofToken t r = .ok found ∧ found ≠ []) :
    ∃ ms, ofTokens r ts = .ok (some ms) := by
  induction ts with
  | nil => exact ⟨[], rfl⟩
  | cons t ts ih =>
    obtain ⟨⟨found, hfound, hfull⟩, hts⟩ := List.forall_mem_cons.1 h
    obtain ⟨ms, hms⟩ := ih hts
    exact ⟨⟨t, found⟩ :: ms, by rw [ofTokens_cons hfound, if_neg (by simpa using hfull), hms]; rfl⟩

/-- **What a hit holds**: for each token of the query, in their order, what it
finds in the record, which is something. -/
theorem hit?_eq_some_iff :
    hit? ts e = .ok (some h) ↔
      ts ≠ [] ∧ h.entry = e ∧ h.tokens.map (·.token) = ts ∧
        ∀ m ∈ h.tokens, ofToken m.token e.record = .ok m.found ∧ m.found ≠ [] := by
  by_cases hts : ts = []
  · simp [hts, hit?]
  rw [hit?_of_ne_nil hts, map_eq_ok_iff, ← ofTokens_eq_some_iff]
  constructor
  · rintro ⟨o, ho, hmap⟩
    obtain ⟨ms, rfl, rfl⟩ := Option.map_eq_some_iff.1 hmap
    exact ⟨hts, rfl, ho⟩
  · rintro ⟨-, rfl, ho⟩
    exact ⟨_, ho, rfl⟩

end Tokens

/-! ## The strength -/

section Strength

variable {m : TokenMatch} {ms : List TokenMatch} {s : Strength} {h h' : Hit}
variable {ts : List Token} {e : Entry} {o o' : Option Hit} {places : List Nat}

theorem TokenMatch.strength_eq_exact_iff :
    m.strength = .exact ↔ ∃ found ∈ m.found, found.strength = .exact := by
  have hany : m.found.any (·.strength == .exact) = true ↔
      ∃ found ∈ m.found, found.strength = .exact := by
    simp only [List.any_eq_true, beq_iff_eq]
  rw [← hany, TokenMatch.strength]
  split
  · next h => simp [h]
  · next h => simp [h]

theorem raise_eq_exact_iff : Hit.raise s m = .exact ↔ s = .exact ∨ m.strength = .exact := by
  unfold Hit.raise
  split
  · next h => simp [h]
  · next h => split <;> simp_all

/-- **Once exact, the strength stays exact**, and nothing else makes it so. -/
theorem foldl_raise_eq_exact_iff :
    ms.foldl Hit.raise s = .exact ↔ s = .exact ∨ ∃ m ∈ ms, m.strength = .exact := by
  induction ms generalizing s with
  | nil => simp
  | cons m ms ih =>
    rw [List.foldl_cons, ih, raise_eq_exact_iff, or_assoc]
    simp only [List.mem_cons, exists_eq_or_imp]

/-- **A hit is exact when something that was found is.** -/
theorem strength_eq_exact_iff :
    h.strength = .exact ↔ ∃ m ∈ h.tokens, ∃ found ∈ m.found, found.strength = .exact := by
  simp only [Hit.strength, foldl_raise_eq_exact_iff, TokenMatch.strength_eq_exact_iff,
    reduceCtorEq, false_or]

/-- A hit of any tokens is exact or partial. -/
theorem strength_eq_or (hne : h.tokens ≠ []) : h.strength = .exact ∨ h.strength = .inPart := by
  obtain ⟨m, ms, htokens⟩ := List.exists_cons_of_ne_nil hne
  -- the first token raises the strength, and no other lowers it again
  have hfirst : 1 ≤ m.strength.rank := by
    unfold TokenMatch.strength
    split <;> decide
  have hrank : 1 ≤ h.strength.rank := by
    rw [Hit.strength, htokens, List.foldl_cons, rank_foldl_raise, rank_raise]
    omega
  cases hs : h.strength with
  | exact => exact .inl rfl
  | inPart => exact .inr rfl
  | none => simp [hs, Strength.rank] at hrank

/-- Hits that hold the same are as strong, in whatever order they hold it. -/
theorem strength_congr (hmem : ∀ m, m ∈ h.tokens ↔ m ∈ h'.tokens) (hne : h.tokens ≠ [])
    (hne' : h'.tokens ≠ []) : h.strength = h'.strength := by
  have hexact : h.strength = .exact ↔ h'.strength = .exact := by
    simp only [strength_eq_exact_iff, hmem]
  rcases strength_eq_or hne with hs | hs <;> rcases strength_eq_or hne' with hs' | hs'
  · rw [hs, hs']
  · rw [hexact.1 hs] at hs'
    cases hs'
  · rw [hexact.2 hs'] at hs
    cases hs
  · rw [hs, hs']

/-- The hit that holds the same in another order. -/
def Hit.rearranged (places : List Nat) (h : Hit) : Hit :=
  ⟨h.entry, Match.rearranged places h.tokens⟩

/-- Tokens in another order hit what they hit, and hold it in that order. -/
theorem hit?_rearranged_of_some (hplaces : places.Perm (List.range ts.length))
    (hhit : hit? ts e = .ok (some h)) :
    hit? (rearranged places ts) e = .ok (some (h.rearranged places)) := by
  obtain ⟨hts, rfl, htokens, hall⟩ := hit?_eq_some_iff.1 hhit
  refine hit?_eq_some_iff.2 ⟨fun hnil => hts ?_, rfl, ?_, fun m hm => ?_⟩
  · have hperm := rearranged_perm hplaces
    rw [hnil] at hperm
    exact hperm.nil_eq.symm
  · rw [Hit.rearranged, map_rearranged, htokens]
  · exact hall m (mem_of_mem_rearranged hm)

/-- A record is a hit of the same tokens in any order. -/
theorem exists_hit?_of_perm {us : List Token} (hperm : ts.Perm us)
    (hhit : hit? us e = .ok (some h)) : ∃ h', hit? ts e = .ok (some h') := by
  obtain ⟨hus, rfl, htokens, hall⟩ := hit?_eq_some_iff.1 hhit
  have hts : ts ≠ [] := fun hnil => hus (hperm.symm.trans (hnil ▸ .refl _)).eq_nil
  have hfound : ∃ ms, ofTokens h.entry.record ts = .ok (some ms) := by
    refine exists_ofTokens_eq_some fun t ht => ?_
    obtain ⟨m, hm, rfl⟩ := List.mem_map.1 (htokens ▸ hperm.mem_iff.1 ht)
    exact ⟨m.found, hall m hm⟩
  obtain ⟨ms, hms⟩ := hfound
  exact ⟨⟨h.entry, ms⟩, by rw [hit?_of_ne_nil hts, hms]; rfl⟩

/-- **The order of the tokens says nothing.** Let a record be judged by a list
of tokens and by the same tokens in another order. It is a hit of both or of
neither, and the second hit holds for each token what the first does, in its
own order; the two are as strong and have one score. A hit is exact when
something that a token found is, and partial if not. -/
theorem hit?_rearranged (hplaces : places.Perm (List.range ts.length)) (ho : hit? ts e = .ok o)
    (ho' : hit? (rearranged places ts) e = .ok o') :
    o' = o.map (Hit.rearranged places) ∧
      ∀ h ∈ o, h.tokens.map (·.token) = ts ∧
        (h.rearranged places).strength = h.strength ∧
        (h.rearranged places).score = h.score ∧
        (h.strength = .exact ↔ ∃ m ∈ h.tokens, ∃ found ∈ m.found, found.strength = .exact) ∧
        (h.strength ≠ .exact → h.strength = .inPart) := by
  constructor
  · cases o with
    | some h =>
      rw [hit?_rearranged_of_some hplaces ho] at ho'
      exact (Except.ok.inj ho').symm
    | none =>
      cases o' with
      | none => rfl
      | some h' =>
        -- a hit of the second list would be one of the first, which made none
        obtain ⟨h, hhit⟩ := exists_hit?_of_perm (rearranged_perm hplaces).symm ho'
        rw [ho] at hhit
        cases hhit
  · rintro h rfl
    obtain ⟨hts, -, htokens, -⟩ := hit?_eq_some_iff.1 ho
    have hne : h.tokens ≠ [] := fun hnil => hts (by rw [← htokens, hnil]; rfl)
    have hlength : h.tokens.length = ts.length := by rw [← htokens, List.length_map]
    have hperm : (rearranged places h.tokens).Perm h.tokens := rearranged_perm (hlength ▸ hplaces)
    have hne' : rearranged places h.tokens ≠ [] := fun hnil => hne (hnil ▸ hperm).nil_eq.symm
    have hstrength : (h.rearranged places).strength = h.strength :=
      strength_congr (fun _ => hperm.mem_iff) hne' hne
    refine ⟨htokens, hstrength, ?_, strength_eq_exact_iff, (strength_eq_or hne).resolve_left⟩
    rw [Hit.score, Hit.score, hstrength, Hit.rearranged, hperm.length_eq]

/-- A word of a title, and the year. -/
def wordAndYear : List Token :=
  [⟨"lean", "lean", some .title, false⟩, ⟨"year:2020", "2020", some .year, false⟩]

/-- A record that has both, and what is found of them. -/
def wordAndYearHit : Hit :=
  ⟨⟨0, ⟨[("title", .str "Lean"), ("issued", .obj [("date-parts", .arr [.arr [.int 2020]])])]⟩⟩,
    [⟨⟨"lean", "lean", some .title, false⟩, [⟨"title", .inPart, "Lean"⟩]⟩,
      ⟨⟨"year:2020", "2020", some .year, false⟩, [⟨"year", .exact, "2020"⟩]⟩]⟩

theorem hit?_rearranged_wordAndYear :
    [1, 0].Perm (List.range wordAndYear.length) ∧
      hit? wordAndYear wordAndYearHit.entry = .ok (some wordAndYearHit) ∧
      hit? (rearranged [1, 0] wordAndYear) wordAndYearHit.entry =
        .ok (some (wordAndYearHit.rearranged [1, 0])) ∧
      (wordAndYearHit.rearranged [1, 0]).strength = wordAndYearHit.strength ∧
      (wordAndYearHit.rearranged [1, 0]).score = wordAndYearHit.score ∧
      wordAndYearHit.strength = .exact := by
  have hplaces : [1, 0].Perm (List.range wordAndYear.length) := by decide
  have hhit : hit? wordAndYear wordAndYearHit.entry = .ok (some wordAndYearHit) := by
    refine hit?_eq_some_iff.2 ⟨by simp [wordAndYear], rfl, rfl, ?_⟩
    decide +kernel
  have hhit' := hit?_rearranged_of_some hplaces hhit
  obtain ⟨-, hsame⟩ := hit?_rearranged hplaces hhit hhit'
  obtain ⟨-, hstrength, hscore, hexact, -⟩ := hsame _ rfl
  exact ⟨hplaces, hhit, hhit', hstrength, hscore, hexact.2 (by decide)⟩

end Strength

end Bibliography.Match
