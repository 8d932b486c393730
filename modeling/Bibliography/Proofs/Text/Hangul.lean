import Bibliography.Proofs.Text.Replacement
import Bibliography.Text.NormalForm
/-!
# Hangul syllables

A syllable decomposes into two or three letters, and these compose to the
syllable again (`exists_hangulParts?`). What composes is a syllable, and nothing
composes with a syllable behind it, or with a letter that leads one.
-/

namespace Bibliography.Text

variable {a b c d : Char}

/-- The letters that make up Hangul syllables. -/
def jamo : CodeSet :=
  .ofRanges [(0x1100, 0x1112), (0x1161, 0x1175), (0x11A8, 0x11C2)]

/-- The Hangul syllables. -/
def syllables : CodeSet :=
  .ofRanges [(0xAC00, 0xD7A3)]

theorem mem_jamo {n : Nat} : n ∈ jamo ↔
    (0x1100 ≤ n ∧ n ≤ 0x1112) ∨ (0x1161 ≤ n ∧ n ≤ 0x1175) ∨ (0x11A8 ≤ n ∧ n ≤ 0x11C2) := by
  rw [jamo, CodeSet.mem_ofRanges]
  simp

theorem mem_syllables {n : Nat} : n ∈ syllables ↔ 0xAC00 ≤ n ∧ n ≤ 0xD7A3 := by
  rw [syllables, CodeSet.mem_ofRanges]
  simp

theorem eq_ofNat_iff {n : Nat} (h : n.isValidChar) : Char.ofNat n = c ↔ c.toNat = n := by
  constructor
  · rintro rfl
    exact toNat_ofNat h
  · rintro rfl
    exact Char.ofNat_toNat c

/-- **What composes to a syllable**: a consonant and a vowel, or a syllable without
a last consonant and such a consonant. -/
theorem hangulCompose?_eq_some_iff : hangulCompose? a b = some c ↔
    (0x1100 ≤ a.toNat ∧ a.toNat < 0x1113) ∧ (0x1161 ≤ b.toNat ∧ b.toNat < 0x1176) ∧
        c.toNat = 0xAC00 + ((a.toNat - 0x1100) * 21 + (b.toNat - 0x1161)) * 28 ∨
      (a.toNat ∈ syllables ∧ (a.toNat - 0xAC00) % 28 = 0) ∧
        (0x11A7 < b.toNat ∧ b.toNat < 0x11C3) ∧ c.toNat = a.toNat + (b.toNat - 0x11A7) := by
  rw [mem_syllables, hangulCompose?]
  unfold hangulLeadBase hangulVowelBase hangulBase hangulTrailBase
  simp only [Bool.and_eq_true, decide_eq_true_eq]
  split
  · next h =>
    rw [Option.some_inj, eq_ofNat_iff (.inl (by omega))]
    omega
  · next h =>
    split
    · next h' =>
      rw [Option.some_inj, eq_ofNat_iff (.inl (by omega))]
      omega
    · next h' =>
      simp only [reduceCtorEq, false_iff]
      omega

theorem mem_syllables_of_hangulCompose? (h : hangulCompose? a b = some c) :
    c.toNat ∈ syllables := by
  have := hangulCompose?_eq_some_iff.1 h
  rw [mem_syllables] at this ⊢
  omega

/-- Behind a character stands a vowel or a last consonant, if it composes with that. -/
theorem mem_jamo_of_hangulCompose? (h : hangulCompose? a b = some c) :
    b.toNat ∈ jamo ∧ 0x1113 ≤ b.toNat ∧ (a.toNat ∈ jamo ∨ a.toNat ∈ syllables) := by
  have := hangulCompose?_eq_some_iff.1 h
  rw [mem_syllables] at this ⊢
  rw [mem_jamo, mem_jamo]
  omega

/-- Nothing composes with a syllable behind it. -/
theorem hangulCompose?_syllable (h : b.toNat ∈ syllables) : hangulCompose? a b = none := by
  refine Option.eq_none_iff_forall_ne_some.2 fun c hc => ?_
  have := (mem_jamo_of_hangulCompose? hc).1
  rw [mem_jamo] at this
  rw [mem_syllables] at h
  omega

/-- Nothing composes with a letter behind it that leads a syllable. -/
theorem hangulCompose?_lead (h : b.toNat < 0x1113) : hangulCompose? a b = none := by
  refine Option.eq_none_iff_forall_ne_some.2 fun c hc => ?_
  have := (mem_jamo_of_hangulCompose? hc).2.1
  omega

theorem hangulParts?_eq_none_iff : hangulParts? c = none ↔ c.toNat ∉ syllables := by
  rw [mem_syllables, hangulParts?]
  unfold hangulBase
  simp only [Bool.and_eq_true, decide_eq_true_eq]
  split
  · next h =>
    split
    · simp only [reduceCtorEq, false_iff]
      omega
    · simp only [reduceCtorEq, false_iff]
      omega
  · next h =>
    simp only [true_iff]
    omega

/-- **A syllable has the parts that compose to it.** -/
theorem exists_hangulParts? (h : c.toNat ∈ syllables) :
    ∃ lead vowel, lead.toNat < 0x1113 ∧
      ((hangulParts? c = some [lead, vowel] ∧ hangulCompose? lead vowel = some c) ∨
        ∃ trail between, hangulParts? c = some [lead, vowel, trail] ∧
          hangulCompose? lead vowel = some between ∧ hangulCompose? between trail = some c) := by
  rw [mem_syllables] at h
  let index := c.toNat - 0xAC00
  have hlead : (Char.ofNat (0x1100 + index / (21 * 28))).toNat = 0x1100 + index / (21 * 28) :=
    toNat_ofNat (.inl (by omega))
  have hvowel : (Char.ofNat (0x1161 + index % (21 * 28) / 28)).toNat =
      0x1161 + index % (21 * 28) / 28 := toNat_ofNat (.inl (by omega))
  have hparts : hangulParts? c =
      if index % 28 = 0 then
        some [Char.ofNat (0x1100 + index / (21 * 28)), Char.ofNat (0x1161 + index % (21 * 28) / 28)]
      else
        some [Char.ofNat (0x1100 + index / (21 * 28)), Char.ofNat (0x1161 + index % (21 * 28) / 28),
          Char.ofNat (0x11A7 + index % 28)] := by
    rw [hangulParts?]
    unfold hangulBase
    exact if_pos (by simp only [Bool.and_eq_true, decide_eq_true_eq]; omega)
  -- every 28th syllable has no last consonant
  by_cases hopen : index % 28 = 0
  · rw [if_pos hopen] at hparts
    refine ⟨_, _, by rw [hlead]; omega, .inl ⟨hparts, hangulCompose?_eq_some_iff.2 (.inl ?_)⟩⟩
    rw [hlead, hvowel]
    omega
  · rw [if_neg hopen] at hparts
    have hbetween : (Char.ofNat (c.toNat - index % 28)).toNat = c.toNat - index % 28 :=
      toNat_ofNat (.inl (by omega))
    have htrail : (Char.ofNat (0x11A7 + index % 28)).toNat = 0x11A7 + index % 28 :=
      toNat_ofNat (.inl (by omega))
    refine ⟨_, _, by rw [hlead]; omega, .inr ⟨_, Char.ofNat (c.toNat - index % 28), hparts,
      hangulCompose?_eq_some_iff.2 (.inl ?_), hangulCompose?_eq_some_iff.2 (.inr ?_)⟩⟩
    · rw [hlead, hvowel, hbetween]
      omega
    · rw [hbetween, htrail, mem_syllables]
      omega

theorem hangulParts?_eq_canonical (h : c.toNat ∈ syllables) :
    hangulParts? c = some (canonical c) := by
  cases hparts : hangulParts? c with
  | none => exact absurd h (hangulParts?_eq_none_iff.1 hparts)
  | some parts =>
    rw [mem_syllables] at h
    rw [canonical, if_neg (by omega), hparts]

/-- The parts of a syllable are letters. -/
theorem mem_jamo_of_mem_canonical (h : c.toNat ∈ syllables) (hd : d ∈ canonical c) :
    d.toNat ∈ jamo := by
  have hcanonical := hangulParts?_eq_canonical h
  have hlead : ∀ {lead vowel e : Char}, lead.toNat < 0x1113 →
      hangulCompose? lead vowel = some e → lead.toNat ∈ jamo := by
    intro lead vowel e hlt hcompose
    rcases (mem_jamo_of_hangulCompose? hcompose).2.2 with hjamo | hsyllable
    · exact hjamo
    · rw [mem_syllables] at hsyllable
      omega
  obtain ⟨lead, vowel, hlt, ⟨hparts, hcompose⟩ | ⟨trail, between, hparts, hopen, hcompose⟩⟩ :=
    exists_hangulParts? h
  · rw [Option.some.inj (hcanonical.symm.trans hparts)] at hd
    simp only [List.mem_cons, List.not_mem_nil, or_false] at hd
    rcases hd with rfl | rfl
    · exact hlead hlt hcompose
    · exact (mem_jamo_of_hangulCompose? hcompose).1
  · rw [Option.some.inj (hcanonical.symm.trans hparts)] at hd
    simp only [List.mem_cons, List.not_mem_nil, or_false] at hd
    rcases hd with rfl | rfl | rfl
    · exact hlead hlt hopen
    · exact (mem_jamo_of_hangulCompose? hopen).1
    · exact (mem_jamo_of_hangulCompose? hcompose).1

end Bibliography.Text
