import Bibliography.Proofs.Text.CharacterData
import Bibliography.Text.Case
import Bibliography.Text.Category
/-!
# Characters by their tables

Decompositions and lower-case forms are replacements by tables
(`standsFor_canonical`, `compatibility_cases`, `standsFor_lowerChar`), and marks
are the characters of a set (`category_eq_mark_iff`). What composes is Hangul, or
a mark with what stands before it (`composePair?_cases`).
-/

namespace Bibliography.Text

variable {a b c : Char}

/-! ## Categories and combining -/

theorem category_eq_mark_iff : category c = .mark ↔ c.toNat ∈ markSet := by
  have hletter : letters.contains c = true ↔ c.toNat ∈ CodeSet.ofRanges letterRanges := by
    rw [letters, Ranges.contains_ofList_iff characterData.searchable_letterRanges,
      CodeSet.mem_ofRanges]
  have hmark : marks.contains c = true ↔ c.toNat ∈ markSet := by
    rw [marks, Ranges.contains_ofList_iff characterData.searchable_markRanges, markSet,
      CodeSet.mem_ofRanges]
  rw [category, ← hmark]
  split
  · next h =>
    have := characterData.markSet_apart_letters.not_mem (hletter.1 h)
    simp [hmark, this]
  · split
    · next h => simp [h]
    · next h =>
      refine iff_of_false ?_ h
      split
      · simp
      · split <;> simp

/-- Only marks have a combining class. -/
theorem combiningClass_eq_zero (h : category c ≠ .mark) : combiningClass c = 0 := by
  rw [combiningClass]
  split
  · rfl
  · split
    · next first last value hfound =>
      split
      · next hlast =>
        have hmem : (first, last, value) ∈ combiningClassRanges :=
          List.mem_toArray.1 (mem_of_lastAtMost? hfound)
        have hstart : first ≤ c.toNat := start_le_of_lastAtMost? hfound
        have hranges : c.toNat ∈
            CodeSet.ofRanges (combiningClassRanges.map fun e => (e.1, e.2.1)) :=
          CodeSet.mem_ofRanges.2 ⟨(first, last), List.mem_map_of_mem hmem, hstart, hlast⟩
        exact absurd (category_eq_mark_iff.2 (characterData.classes_within_markSet.mem hranges)) h
      · rfl
    · rfl

/-- What composes, Hangul apart, composes with a mark behind it. -/
theorem composePair?_cases (h : composePair? a b = some c) :
    hangulCompose? a b = some c ∨
      category b = .mark ∧ ∃ cs, StandsFor compositionEntries a cs ∧ c ∈ cs := by
  rw [composePair?] at h
  split at h
  · next hhangul => exact .inl (hhangul.trans h)
  · split at h
    · next first seconds hfound =>
      split at h
      · next heq =>
        subst heq
        obtain ⟨v, hv, rfl⟩ := Option.map_eq_some_iff.1 h
        have hpair : (b.toNat, v) ∈ seconds := by
          obtain ⟨front, back, rfl, -⟩ := List.lookup_eq_some_iff.1 hv
          simp
        have hmem := List.mem_toArray.1 (mem_of_lastAtMost? hfound)
        exact .inr ⟨category_eq_mark_iff.2 (characterData.seconds_within_markSet.mem
            (CodeSet.mem_collect.2 ⟨_, hmem, List.mem_map.2 ⟨_, hpair, rfl⟩⟩)),
          _, .entry (List.mem_map.2 ⟨_, hmem, rfl⟩),
          List.mem_map.2 ⟨v, List.mem_map.2 ⟨_, hpair, rfl⟩, rfl⟩⟩
      · cases h
    · cases h

/-! ## Decompositions -/

theorem standsFor_canonical (h : c.toNat ∉ syllables) :
    StandsFor canonicalEntries c (canonical c) := by
  rw [canonical]
  split
  · next hlow =>
    have : c.toNat ∉ decomposed := characterData.decomposed_apart_firsts.not_mem
      (CodeSet.mem_ofRanges.2 ⟨_, List.mem_singleton.2 rfl, Nat.zero_le _, by dsimp only; omega⟩)
    exact .itself fun hkey => this (CodeSet.mem_union.2 (.inl hkey))
  · rw [hangulParts?_eq_none_iff.2 h]
    rcases lookup_cases characterData.searchable_canonicalExpansions
        characterData.searchable_canonicalRuns c with
      ⟨text, htext, hget⟩ | ⟨hnone, ⟨v, hv, hget⟩ | ⟨hget, hkey⟩⟩
    · simp only [canonicalTexts, hget]
      exact .entry htext
    · simp only [canonicalTexts, canonicalSingles, hnone, hget]
      exact .entry hv
    · simp only [canonicalTexts, canonicalSingles, hnone, hget]
      exact .itself hkey

theorem canonical_of_not_mem (h : c.toNat ∉ decomposed) : canonical c = [c] :=
  (standsFor_canonical fun hc => h (CodeSet.mem_union.2 (.inr hc))).eq_singleton
    fun hc => h (CodeSet.mem_union.2 (.inl hc))

theorem compatibility_cases (c : Char) :
    (∃ text, (c.toNat, text) ∈ compatibilityEntries ∧ compatibility c = text.map Char.ofNat) ∨
      c.toNat ∉ keys compatibilityEntries ∧ compatibility c = canonical c := by
  rw [compatibility]
  split
  · next hlow =>
    refine .inr ⟨characterData.compatibilityKeys_apart_firsts.not_mem (CodeSet.mem_ofRanges.2
      ⟨_, List.mem_singleton.2 rfl, Nat.zero_le _, by dsimp only; omega⟩), ?_⟩
    rw [canonical, if_pos (by omega)]
  · rcases lookup_cases characterData.searchable_compatibilityExpansions
        characterData.searchable_compatibilityRuns c with
      ⟨text, htext, hget⟩ | ⟨hnone, ⟨v, hv, hget⟩ | ⟨hget, hkey⟩⟩
    · simp only [compatibilityTexts, hget]
      exact .inl ⟨text, htext, rfl⟩
    · simp only [compatibilityTexts, compatibilitySingles, hnone, hget]
      exact .inl ⟨[v], hv, rfl⟩
    · simp only [compatibilityTexts, compatibilitySingles, hnone, hget]
      exact .inr ⟨hkey, trivial⟩

/-! ## Lower case -/

theorem toLower_ofNat : ∀ n < 0x80,
    (Char.ofNat n).toLower = Char.ofNat (if 0x41 ≤ n ∧ n ≤ 0x5A then 0x61 + (n - 0x41) else n) := by
  decide +kernel

theorem standsFor_lowerChar (hsigma : c ≠ 'Σ') : StandsFor lowerEntries c (lowerChar c) := by
  have hentry : ∀ {text}, (c.toNat, text) ∈ runEntries lowerRuns →
      (c.toNat, text) ∈ lowerEntries := fun h => .tail _ (.tail _ (.tail _ h))
  rw [lowerChar]
  split
  · next hlow =>
    -- these are lowered without the table, to what the table has for them
    have hlower := toLower_ofNat c.toNat hlow
    rw [Char.ofNat_toNat] at hlower
    rw [hlower]
    split
    · next hcapital =>
      have hrun : (0x41, 0x5A, 1, 0x61) ∈ lowerRuns := .head _
      exact .entry (hentry (mem_runEntries.2
        ⟨_, _, _, _, hrun, ⟨c.toNat - 0x41, by omega, by omega⟩, rfl⟩))
    · next hcapital =>
      rw [Char.ofNat_toNat]
      refine .itself (characterData.lowerKeys_apart_firsts.not_mem (CodeSet.mem_ofRanges.2 ?_))
      by_cases h : c.toNat ≤ 0x40
      · exact ⟨(0, 0x40), .head _, Nat.zero_le _, h⟩
      · exact ⟨(0x5B, 0x7F), .tail _ (.head _), by dsimp only; omega, by dsimp only; omega⟩
  · split
    · next hdotted =>
      subst hdotted
      exact @StandsFor.entry lowerEntries 'İ' [0x69, 0x307] (.head _)
    · next hdotted =>
      cases hget : lowerMap.get? c with
      | some d =>
        obtain ⟨v, hv, rfl⟩ :=
          (Runs.get?_ofList_eq_some_iff characterData.searchable_lowerRuns).1 hget
        exact .entry (hentry hv)
      | none =>
        refine .itself fun hkey => ?_
        obtain ⟨text, htext⟩ := mem_keys.1 hkey
        have hne : ∀ d : Char, c ≠ d → c.toNat ≠ d.toNat :=
          fun d hd heq => hd (by rw [← Char.ofNat_toNat c, heq, Char.ofNat_toNat])
        rw [lowerEntries, List.mem_cons, List.mem_cons, List.mem_cons] at htext
        rcases htext with h | h | h | hrun
        · exact hne 'İ' hdotted (congrArg Prod.fst h)
        · exact hne 'Σ' hsigma (congrArg Prod.fst h)
        · exact hne 'Σ' hsigma (congrArg Prod.fst h)
        · obtain ⟨first, last, step, target, -, -, rfl⟩ := mem_runEntries.1 hrun
          have := (Runs.get?_ofList_eq_some_iff characterData.searchable_lowerRuns).2 ⟨_, hrun, rfl⟩
          cases hget.symm.trans this

end Bibliography.Text
