import Bibliography.Proofs.Text.Decomposition
import Bibliography.Text.SearchForm
/-!
# Texts that are composed

Without marks only Hangul composes. A text of base characters composes to one in
which nothing composes any more (`isComposed_compose`), and such a text is what
it decomposes to, composed again (`compose_flatMap_canonical`); so it stays as it
is in both normal forms (`IsComposed.nfkc_eq`, `IsComposed.withoutMarks_eq`).
-/

namespace Bibliography.Text

variable {s : CodeSet} {a b c d : Char} {cs : List Char}

/-! ## Composing without marks -/

theorem IsBase.combiningClass_eq (h : IsBase c) : combiningClass c = 0 :=
  combiningClass_eq_zero h.category

theorem IsBase.composePair?_eq (h : IsBase b) : composePair? a b = hangulCompose? a b := by
  cases hhangul : hangulCompose? a b with
  | some c => rw [composePair?, hhangul]
  | none =>
    cases hcompose : composePair? a b with
    | none => rfl
    | some c =>
      rcases composePair?_cases hcompose with hsome | ⟨hmark, -⟩
      · cases hhangul.symm.trans hsome
      · exact absurd hmark h.category

theorem absorb_cons_of_some (h : IsBase d) (hcompose : hangulCompose? a d = some c) :
    absorb a 0 (d :: cs) = absorb c 0 cs := by
  simp [absorb, h.composePair?_eq, hcompose]

theorem absorb_cons_of_none (h : IsBase d) (hcompose : hangulCompose? a d = none) :
    absorb a 0 (d :: cs) = (a, d :: cs) := by
  simp [absorb, h.composePair?_eq, hcompose, h.combiningClass_eq]

/-- A character with which nothing composes that stands behind it absorbs nothing. -/
theorem absorb_eq (hbase : ∀ d ∈ cs.head?, IsBase d)
    (hcompose : ∀ d ∈ cs.head?, hangulCompose? a d = none) : absorb a 0 cs = (a, cs) := by
  cases cs with
  | nil => rfl
  | cons d rest => exact absorb_cons_of_none (hbase d rfl) (hcompose d rfl)

/-! ## Composed texts -/

/-- A text of base characters and syllables, none of which composes with the next. -/
structure IsComposed (cs : List Char) : Prop where
  base : ∀ c ∈ cs, IsBase c ∨ c.toNat ∈ syllables
  apart : cs.IsChain fun a b => hangulCompose? a b = none

/-- What a base character absorbs makes a syllable of it, up to where nothing
composes; what is left is of base characters. -/
theorem absorb_spec (hcs : ∀ d ∈ cs, IsBase d) :
    ((absorb a 0 cs).1 = a ∨ (absorb a 0 cs).1.toNat ∈ syllables) ∧
      (∀ d ∈ (absorb a 0 cs).2, IsBase d) ∧
      ∀ d ∈ (absorb a 0 cs).2.head?, hangulCompose? (absorb a 0 cs).1 d = none := by
  -- for all `a`, which becomes a syllable with each character that it absorbs
  induction cs generalizing a with
  | nil => exact ⟨.inl rfl, hcs, by simp [absorb]⟩
  | cons d rest ih =>
    obtain ⟨hd, hrest⟩ := List.forall_mem_cons.1 hcs
    cases hcompose : hangulCompose? a d with
    | some c =>
      rw [absorb_cons_of_some hd hcompose]
      obtain ⟨hfst, hspec⟩ := ih (a := c) hrest
      refine ⟨.inr ?_, hspec⟩
      rcases hfst with heq | hmem
      · rw [heq]
        exact mem_syllables_of_hangulCompose? hcompose
      · exact hmem
    | none =>
      rw [absorb_cons_of_none hd hcompose]
      exact ⟨.inl rfl, hcs, fun e he => Option.some.inj he ▸ hcompose⟩

theorem head?_compose (hcs : ∀ c ∈ cs, IsBase c) :
    ∀ c ∈ (compose cs).head?, c ∈ cs.head? ∨ c.toNat ∈ syllables := by
  cases cs with
  | nil => simp [compose]
  | cons c rest =>
    intro e he
    rw [compose] at he
    obtain rfl := Option.some.inj he
    rcases (absorb_spec (a := c) (List.forall_mem_cons.1 hcs).2).1 with heq | hmem
    · exact .inl (by rw [heq]; rfl)
    · exact .inr hmem

/-- **Base characters compose to a text in which nothing composes any more.** -/
theorem isComposed_compose (hcs : ∀ c ∈ cs, IsBase c) : IsComposed (compose cs) := by
  fun_induction compose cs with
  | case1 => exact ⟨fun c hc => .inl (hcs c hc), .nil⟩
  | case2 c rest ih =>
    obtain ⟨hc, hrest⟩ := List.forall_mem_cons.1 hcs
    obtain ⟨hfst, hleft, hnone⟩ := absorb_spec (a := c) hrest
    obtain ⟨hbase, hapart⟩ := ih hleft
    refine ⟨List.forall_mem_cons.2 ⟨?_, hbase⟩, List.isChain_cons.2 ⟨fun d hd => ?_, hapart⟩⟩
    · rcases hfst with heq | hmem
      · rw [heq]
        exact .inl hc
      · exact .inr hmem
    · rcases head?_compose hleft d hd with hhead | hmem
      · exact hnone d hhead
      · exact hangulCompose?_syllable hmem

theorem isBase_of_mem_jamo (h : c.toNat ∈ jamo) : IsBase c where
  settled := characterData.compatibilityKeys_leftForGood.apart_jamo.not_mem h
  full := characterData.decomposed_apart_jamo.not_mem h
  category := fun hmark => characterData.markSet_apart_jamo.not_mem h (category_eq_mark_iff.1 hmark)

theorem IsBase.canonical_eq (h : IsBase c) : canonical c = [c] :=
  canonical_of_not_mem h.full

theorem isBase_of_mem_canonical_syllable (h : c.toNat ∈ syllables) (hd : d ∈ canonical c) :
    IsBase d :=
  isBase_of_mem_jamo (mem_jamo_of_mem_canonical h hd)

/-- The letter that leads a syllable absorbs the others, and becomes the syllable. -/
theorem exists_canonical_syllable (h : c.toNat ∈ syllables) :
    ∃ lead rest, canonical c = lead :: rest ∧ lead.toNat < 0x1113 ∧
      ∀ cs, absorb lead 0 (rest ++ cs) = absorb c 0 cs := by
  have hcanonical := hangulParts?_eq_canonical h
  have hbase : ∀ d ∈ canonical c, IsBase d := fun d => isBase_of_mem_canonical_syllable h
  obtain ⟨lead, vowel, hlead, ⟨hparts, hcompose⟩ | ⟨trail, between, hparts, hopen, hcompose⟩⟩ :=
    exists_hangulParts? h
  · rw [Option.some.inj (hcanonical.symm.trans hparts)] at hbase ⊢
    refine ⟨lead, [vowel], rfl, hlead, fun cs => ?_⟩
    exact absorb_cons_of_some (hbase vowel (by simp)) hcompose
  · rw [Option.some.inj (hcanonical.symm.trans hparts)] at hbase ⊢
    refine ⟨lead, [vowel, trail], rfl, hlead, fun cs => ?_⟩
    exact (absorb_cons_of_some (hbase vowel (by simp)) hopen).trans
      (absorb_cons_of_some (hbase trail (by simp)) hcompose)

/-- What a composed text decomposes to starts with a base character, and that
composes with nothing before the text. -/
theorem head?_flatMap_canonical (h : IsComposed (c :: cs)) :
    ∀ d ∈ (cs.flatMap canonical).head?, IsBase d ∧ hangulCompose? c d = none := by
  cases cs with
  | nil => simp
  | cons e rest =>
    intro d hd
    rw [List.flatMap_cons] at hd
    rcases h.base e (by simp) with he | he
    · rw [he.canonical_eq] at hd
      obtain rfl := Option.some.inj hd
      exact ⟨he, (List.isChain_cons_cons.1 h.apart).1⟩
    · obtain ⟨lead, others, hcanonical, hlead, -⟩ := exists_canonical_syllable he
      rw [hcanonical] at hd
      obtain rfl := Option.some.inj hd
      exact ⟨isBase_of_mem_canonical_syllable he (by simp [hcanonical]), hangulCompose?_lead hlead⟩

/-- **A composed text is what it decomposes to, composed again.** -/
theorem compose_flatMap_canonical (h : IsComposed cs) : compose (cs.flatMap canonical) = cs := by
  induction cs with
  | nil => rw [List.flatMap_nil, compose]
  | cons c rest ih =>
    obtain ⟨hc, hbase⟩ := List.forall_mem_cons.1 h.base
    have hrest : compose (rest.flatMap canonical) = rest :=
      ih ⟨hbase, (List.isChain_cons.1 h.apart).2⟩
    have habsorb : absorb c 0 (rest.flatMap canonical) = (c, rest.flatMap canonical) :=
      absorb_eq (fun d hd => (head?_flatMap_canonical h d hd).1)
        fun d hd => (head?_flatMap_canonical h d hd).2
    rw [List.flatMap_cons]
    -- a syllable is put together from its letters before it meets the rest
    rcases hc with hc | hc
    · rw [hc.canonical_eq, List.singleton_append, compose, habsorb, hrest]
    · obtain ⟨lead, others, hcanonical, -, hothers⟩ := exists_canonical_syllable hc
      rw [hcanonical, List.cons_append, compose, hothers, habsorb, hrest]

/-! ## Normal forms -/

theorem IsComposed.isBase_of_mem (h : IsComposed cs) (hd : d ∈ cs.flatMap canonical) :
    IsBase d := by
  obtain ⟨c, hc, hd⟩ := List.mem_flatMap.1 hd
  rcases h.base c hc with hbase | hsyllable
  · rw [hbase.canonical_eq, List.mem_singleton] at hd
    exact hd ▸ hbase
  · exact isBase_of_mem_canonical_syllable hsyllable hd

/-- Base characters are decomposed and in order as they stand. -/
theorem nfd_eq_of_isBase (h : ∀ c ∈ cs, IsBase c) : nfd cs = cs := by
  have hcanonical : cs.flatMap canonical = cs :=
    (List.flatMap_congr fun c hc => (h c hc).canonical_eq).trans (List.flatMap_singleton' cs)
  rw [nfd, hcanonical, canonicalOrder_eq fun c hc => (h c hc).combiningClass_eq]

theorem IsComposed.nfd_eq (h : IsComposed cs) : nfd cs = cs.flatMap canonical := by
  rw [nfd, canonicalOrder_eq fun c hc => (h.isBase_of_mem hc).combiningClass_eq]

theorem IsComposed.nfkc_eq (h : IsComposed cs) : nfkc cs = cs := by
  have hcompatibility : cs.flatMap compatibility = cs.flatMap canonical := by
    refine List.flatMap_congr fun c hc => IsSettled.compatibility_eq ?_
    rcases h.base c hc with hbase | hsyllable
    · exact hbase.settled
    · exact characterData.compatibilityKeys_leftForGood.apart_syllables.not_mem hsyllable
  rw [nfkc, hcompatibility, canonicalOrder_eq fun c hc => (h.isBase_of_mem hc).combiningClass_eq,
    compose_flatMap_canonical h]

theorem IsComposed.withoutMarks_eq (h : IsComposed cs) : withoutMarks cs = cs := by
  have hfilter : (cs.flatMap canonical).filter (category · != .mark) = cs.flatMap canonical :=
    List.filter_eq_self.2 fun d hd => bne_iff_ne.2 (h.isBase_of_mem hd).category
  rw [withoutMarks, h.nfd_eq, hfilter, nfc, nfd_eq_of_isBase fun d => h.isBase_of_mem,
    compose_flatMap_canonical h]

/-- Taking marks away does not lead into a set that is left for good. -/
theorem LeftForGood.of_mem_withoutMarks (hs : LeftForGood s) (h : ∀ c ∈ cs, c.toNat ∉ s)
    (hd : d ∈ withoutMarks cs) : d.toNat ∉ s :=
  hs.of_mem_nfc (fun _ he => hs.of_mem_nfd h (List.mem_filter.1 he).1) hd

/-- What is left without marks is composed, if nothing in it has a compatibility
decomposition. -/
theorem isComposed_withoutMarks (h : ∀ c ∈ cs, IsSettled c) : IsComposed (withoutMarks cs) := by
  have hbase : ∀ d ∈ (nfd cs).filter (category · != .mark), IsBase d := by
    intro d hd
    obtain ⟨hnfd, hmark⟩ := List.mem_filter.1 hd
    obtain ⟨c, hc, hcanonical⟩ := mem_nfd.1 hnfd
    exact ⟨characterData.compatibilityKeys_leftForGood.of_mem_canonical (h c hc) hcanonical,
      not_mem_decomposed_of_mem_canonical hcanonical, bne_iff_ne.1 hmark⟩
  rw [withoutMarks, nfc, nfd_eq_of_isBase hbase]
  exact isComposed_compose hbase

end Bibliography.Text
