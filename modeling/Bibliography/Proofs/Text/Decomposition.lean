import Bibliography.Proofs.Text.Character
/-!
# What decomposing, composing and lower case leave

Canonical decompositions are full (`not_mem_decomposed_of_mem_canonical`). After
a compatibility decomposition nothing is left that has one, and neither composing
(`isSettled_of_mem_nfkc`) nor lower case (`isSettled_of_mem_lower`) brings it back.
-/

namespace Bibliography.Text

variable {s : CodeSet} {a b c d : Char} {cs : List Char}

/-- A character without a compatibility decomposition that is no canonical one. -/
def IsSettled (c : Char) : Prop :=
  c.toNat ∉ keys compatibilityEntries

/-- A character without another lower-case form. -/
def IsLower (c : Char) : Prop :=
  c.toNat ∉ keys lowerEntries

/-- A character that is in full decompositions and no mark. -/
structure IsBase (c : Char) : Prop where
  settled : IsSettled c
  full : c.toNat ∉ decomposed
  category : category c ≠ .mark

/-! ## Canonical decomposition -/

/-- Decomposing does not lead into a set that is left for good. -/
theorem LeftForGood.of_mem_canonical (hs : LeftForGood s) (hc : c.toNat ∉ s)
    (hd : d ∈ canonical c) : d.toNat ∉ s := by
  by_cases hsyllable : c.toNat ∈ syllables
  · exact hs.apart_jamo.not_mem (mem_jamo_of_mem_canonical hsyllable hd)
  · exact (standsFor_canonical hsyllable).not_mem hs.keepsOut_canonical hs.zero_not_mem hc hd

/-- **Canonical decompositions are full.** -/
theorem not_mem_decomposed_of_mem_canonical (hd : d ∈ canonical c) : d.toNat ∉ decomposed := by
  by_cases hsyllable : c.toNat ∈ syllables
  · exact characterData.decomposed_apart_jamo.not_mem (mem_jamo_of_mem_canonical hsyllable hd)
  · refine (standsFor_canonical hsyllable).not_mem_of_apart
      characterData.decomposed_apart_values ?_ ?_ hd
    · exact characterData.decomposed_apart_firsts.not_mem (by decide +kernel)
    · intro hkey hc
      rcases CodeSet.mem_union.1 hc with hc | hc
      · exact hkey hc
      · exact hsyllable hc

/-! ## Compatibility decomposition -/

theorem IsSettled.compatibility_eq (h : IsSettled c) : compatibility c = canonical c := by
  rcases compatibility_cases c with ⟨text, htext, -⟩ | ⟨-, heq⟩
  · exact absurd (mem_keys.2 ⟨text, htext⟩) h
  · exact heq

/-- **Compatibility decompositions are full.** -/
theorem isSettled_of_mem_compatibility (hd : d ∈ compatibility c) : IsSettled d := by
  rcases compatibility_cases c with ⟨text, htext, heq⟩ | ⟨hkey, heq⟩
  · rw [heq] at hd
    exact (StandsFor.entry htext).not_mem_of_apart characterData.compatibilityKeys_apart_values
      characterData.compatibilityKeys_leftForGood.zero_not_mem id hd
  · rw [heq] at hd
    exact characterData.compatibilityKeys_leftForGood.of_mem_canonical hkey hd

/-! ## Order and composition -/

theorem mem_canonicalOrder : d ∈ canonicalOrder cs ↔ d ∈ cs := by
  have hinsert : ∀ (c : Char) (cs : List Char), d ∈ insertByClass c cs ↔ d = c ∨ d ∈ cs := by
    intro c cs
    induction cs with
    | nil => simp [insertByClass]
    | cons e rest ih =>
      rw [insertByClass]
      split
      · rw [List.mem_cons, ih, List.mem_cons, or_left_comm]
      · exact List.mem_cons
  rw [canonicalOrder]
  induction cs with
  | nil => exact Iff.rfl
  | cons c rest ih =>
    rw [List.foldr_cons, hinsert, List.mem_cons]
    exact or_congr_right ih

theorem mem_nfd : d ∈ nfd cs ↔ ∃ c ∈ cs, d ∈ canonical c := by
  rw [nfd, mem_canonicalOrder, List.mem_flatMap]

/-- Characters that start a sequence are in order as they stand. -/
theorem canonicalOrder_eq (h : ∀ c ∈ cs, combiningClass c = 0) : canonicalOrder cs = cs := by
  rw [canonicalOrder]
  induction cs with
  | nil => rfl
  | cons c rest ih =>
    obtain ⟨-, hrest⟩ := List.forall_mem_cons.1 h
    rw [List.foldr_cons, ih hrest]
    cases rest with
    | nil => rfl
    | cons d rest => simp [insertByClass, hrest d List.mem_cons_self]

/-- What is left behind a character that absorbs was behind it. -/
theorem mem_of_mem_absorb_snd {base : Char} {barrier : Nat} (h : d ∈ (absorb base barrier cs).2) :
    d ∈ cs := by
  induction cs generalizing base barrier with
  | nil => exact h
  | cons e rest ih =>
    rw [absorb] at h
    dsimp only at h
    have hkeep : ∀ {barrier}, d ∈ e :: (absorb base barrier rest).2 → d ∈ e :: rest := by
      intro barrier hd
      rcases List.mem_cons.1 hd with rfl | hd
      · exact List.mem_cons_self
      · exact List.mem_cons_of_mem e (ih hd)
    split at h
    · exact h
    · split at h
      · exact hkeep h
      · split at h
        · exact List.mem_cons_of_mem e (ih h)
        · split at h
          · exact h
          · exact hkeep h

section

variable {P : Char → Prop} (hP : ∀ {a b c}, composePair? a b = some c → P a → P c)

include hP

/-- What holds of the first of two characters that compose, and so of the
composite, holds of what absorbs. -/
theorem absorb_fst {base : Char} {barrier : Nat} (hbase : P base) :
    P (absorb base barrier cs).1 := by
  induction cs generalizing base barrier with
  | nil => exact hbase
  | cons d rest ih =>
    rw [absorb]
    dsimp only
    split
    · exact hbase
    · split
      · exact ih hbase
      · split
        · next hcompose => exact ih (hP hcompose hbase)
        · split
          · exact hbase
          · exact ih hbase

theorem mem_compose (hcs : ∀ c ∈ cs, P c) : ∀ c ∈ compose cs, P c := by
  fun_induction compose cs with
  | case1 => exact hcs
  | case2 c rest ih =>
    obtain ⟨hc, hrest⟩ := List.forall_mem_cons.1 hcs
    exact List.forall_mem_cons.2
      ⟨absorb_fst hP hc, ih fun d hd => hrest d (mem_of_mem_absorb_snd hd)⟩

end

/-- Composing does not lead into a set that is left for good. -/
theorem LeftForGood.of_composePair? (hs : LeftForGood s) (h : composePair? a b = some c)
    (ha : a.toNat ∉ s) : c.toNat ∉ s := by
  rcases composePair?_cases h with hhangul | ⟨-, cs, hcs, hc⟩
  · exact hs.apart_syllables.not_mem (mem_syllables_of_hangulCompose? hhangul)
  · exact hcs.not_mem hs.keepsOut_composition hs.zero_not_mem ha hc

theorem LeftForGood.of_mem_nfd (hs : LeftForGood s) (hcs : ∀ c ∈ cs, c.toNat ∉ s)
    (hd : d ∈ nfd cs) : d.toNat ∉ s := by
  obtain ⟨c, hc, hcanonical⟩ := mem_nfd.1 hd
  exact hs.of_mem_canonical (hcs c hc) hcanonical

theorem LeftForGood.of_mem_nfc (hs : LeftForGood s) (hcs : ∀ c ∈ cs, c.toNat ∉ s)
    (hd : d ∈ nfc cs) : d.toNat ∉ s :=
  mem_compose hs.of_composePair? (fun _ => hs.of_mem_nfd hcs) d hd

/-- **Composing does not bring compatibility characters back.** -/
theorem isSettled_of_mem_nfkc (h : c ∈ nfkc cs) : IsSettled c := by
  have hs := characterData.compatibilityKeys_leftForGood
  refine mem_compose hs.of_composePair? (fun d hd => ?_) c h
  obtain ⟨e, -, hd⟩ := List.mem_flatMap.1 (mem_canonicalOrder.1 hd)
  exact isSettled_of_mem_compatibility hd

/-! ## Lower case -/

/-- Lower case replaces each character by one of its lower-case forms. -/
theorem standsFor_of_mem_lowerFrom {before : List Char} (h : d ∈ lowerFrom before cs) :
    ∃ c ∈ cs, ∃ form, StandsFor lowerEntries c form ∧ d ∈ form := by
  induction cs generalizing before with
  | nil => cases h
  | cons c rest ih =>
    rw [lowerFrom, List.mem_append] at h
    rcases h with h | h
    · refine ⟨c, List.mem_cons_self, _, ?_, h⟩
      split
      · next hsigma =>
        subst hsigma
        split
        · exact @StandsFor.entry lowerEntries 'Σ' [0x3C2] (.tail _ (.head _))
        · exact @StandsFor.entry lowerEntries 'Σ' [0x3C3] (.tail _ (.tail _ (.head _)))
      · next hsigma => exact standsFor_lowerChar hsigma
    · obtain ⟨e, he, hform⟩ := ih h
      exact ⟨e, List.mem_cons_of_mem c he, hform⟩

theorem isSettled_of_mem_lower (hcs : ∀ c ∈ cs, IsSettled c) (h : d ∈ lower cs) : IsSettled d := by
  obtain ⟨c, hc, form, hform, hd⟩ := standsFor_of_mem_lowerFrom h
  exact hform.not_mem characterData.compatibilityKeys_keepsOut
    characterData.compatibilityKeys_leftForGood.zero_not_mem (hcs c hc) hd

/-- **Lower-case forms are in lower case.** -/
theorem isLower_of_mem_lower (h : d ∈ lower cs) : IsLower d := by
  obtain ⟨c, -, form, hform, hd⟩ := standsFor_of_mem_lowerFrom h
  exact hform.not_mem_of_apart characterData.lowerKeys_apart_values
    characterData.lowerKeys_leftForGood.zero_not_mem id hd

theorem lower_eq (h : ∀ c ∈ cs, IsLower c) : lower cs = cs := by
  have hfrom : ∀ before, lowerFrom before cs = cs := by
    induction cs with
    | nil => exact fun _ => rfl
    | cons c rest ih =>
      obtain ⟨hc, hrest⟩ := List.forall_mem_cons.1 h
      have hsigma : c ≠ 'Σ' := by
        rintro rfl
        exact hc (mem_keys.2 ⟨_, .tail _ (.head _)⟩)
      intro before
      rw [lowerFrom, if_neg hsigma, (standsFor_lowerChar hsigma).eq_singleton hc, ih hrest]
      rfl
  exact hfrom []

end Bibliography.Text
