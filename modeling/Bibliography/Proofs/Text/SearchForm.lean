import Bibliography.Proofs.Text.Composition
/-!
# Texts in search form

What a text is simplified to is composed, of nothing but letters, numbers and
slashes, in words with one space between two of them (`isSearchForm_simplify`),
and such a text is simplified to itself (`IsSearchForm.simplify_eq`). So the texts
in search form are just those that are their own search form
(`searchForm_eq_self_iff`, `lowerSearchForm_eq_self_iff`), and to take the search
form twice is to take it once. Told of the characters alone, what comes out is in
normal form (`IsNormal`, `isNormal_searchForm`).
-/

namespace Bibliography.Text

variable {c d : Char} {cs : List Char} {R : Char → Char → Prop}

/-! ## Blanks -/

theorem mem_joinBlanks (h : d ∈ joinBlanks cs) : d = ' ' ∨ d ∈ cs ∧ isBlank d = false := by
  have hcons : ∀ {c : Char} {rest : List Char}, d = ' ' ∨ d ∈ rest ∧ isBlank d = false →
      d = ' ' ∨ d ∈ c :: rest ∧ isBlank d = false :=
    Or.imp_right (And.imp_left (List.mem_cons_of_mem _))
  fun_induction joinBlanks cs with
  | case1 => cases h
  | case2 c hc e rest he ih => exact hcons (ih h)
  | case3 c hc e rest he ih =>
    rcases List.mem_cons.1 h with hspace | h
    · exact .inl hspace
    · exact hcons (ih h)
  | case4 c hc => exact .inl (List.mem_singleton.1 h)
  | case5 c rest hc ih =>
    rcases List.mem_cons.1 h with rfl | h
    · exact .inr ⟨List.mem_cons_self, Bool.eq_false_of_not_eq_true hc⟩
    · exact hcons (ih h)

theorem head?_joinBlanks :
    (joinBlanks cs).head? = cs.head?.map fun c => if isBlank c then ' ' else c := by
  fun_induction joinBlanks cs with
  | case1 => rfl
  | case2 c hc e rest he ih =>
    rw [ih]
    simp [hc, he]
  | case3 c hc => simp [hc]
  | case4 c hc => simp [hc]
  | case5 c rest hc => simp [hc]

/-- Joining leaves nothing side by side that was not, but for single spaces. -/
theorem isChain_joinBlanks (hcs : cs.IsChain R) (hbefore : ∀ a, R a ' ') (hbehind : ∀ b, R ' ' b) :
    (joinBlanks cs).IsChain fun a b => R a b ∧ (isBlank a = false ∨ isBlank b = false) := by
  fun_induction joinBlanks cs with
  | case1 => exact .nil
  | case2 c hc e rest he ih => exact ih hcs.tail
  | case3 c hc e rest he ih =>
    refine List.isChain_cons.2 ⟨fun d hd => ⟨hbehind d, .inr ?_⟩, ih hcs.tail⟩
    rw [head?_joinBlanks, List.head?_cons, Option.map_some, if_neg he] at hd
    exact Option.some.inj hd ▸ Bool.eq_false_of_not_eq_true he
  | case4 c hc => exact .singleton _
  | case5 c rest hc ih =>
    refine List.isChain_cons.2 ⟨fun d hd => ⟨?_, .inl (Bool.eq_false_of_not_eq_true hc)⟩,
      ih hcs.tail⟩
    rw [head?_joinBlanks] at hd
    obtain ⟨e, he, rfl⟩ := Option.map_eq_some_iff.1 hd
    split
    · exact hbefore c
    · exact (List.isChain_cons.1 hcs).1 e he

/-- Single spaces are joined as they stand. -/
theorem joinBlanks_eq (hspace : ∀ c ∈ cs, isBlank c = true → c = ' ')
    (hsingle : cs.IsChain fun a b => isBlank a = false ∨ isBlank b = false) :
    joinBlanks cs = cs := by
  fun_induction joinBlanks cs with
  | case1 => rfl
  | case2 c hc e rest he ih =>
    rcases (List.isChain_cons_cons.1 hsingle).1 with h | h
    · exact absurd hc (by simp [h])
    · exact absurd he (by simp [h])
  | case3 c hc e rest he ih =>
    obtain ⟨hfirst, hrest⟩ := List.forall_mem_cons.1 hspace
    rw [ih hrest hsingle.tail, hfirst hc]
  | case4 c hc => rw [hspace c List.mem_cons_self hc]
  | case5 c rest hc ih => rw [ih (List.forall_mem_cons.1 hspace).2 hsingle.tail]

theorem stripEnd_prefix : stripEnd cs <+: cs := by
  have := List.reverse_prefix.2 (List.dropWhile_suffix isBlank (l := cs.reverse))
  rwa [List.reverse_reverse] at this

theorem isInfix_strip : strip cs <:+: cs :=
  stripEnd_prefix.isInfix.trans (List.dropWhile_suffix isBlank).isInfix

/-- A text that neither starts nor ends with a blank. -/
structure IsStripped (cs : List Char) : Prop where
  first : ∀ c ∈ cs.head?, isBlank c = false
  last : ∀ c ∈ cs.getLast?, isBlank c = false

theorem head?_dropWhile_isBlank : ∀ c ∈ (cs.dropWhile isBlank).head?, isBlank c = false := by
  intro c hc
  have := List.head?_dropWhile_not isBlank cs
  rw [Option.mem_def.1 hc] at this
  exact this

theorem isStripped_strip : IsStripped (strip cs) where
  first := by
    intro c hc
    -- what is stripped of its end starts like the text that it is taken from
    obtain ⟨tail, htail⟩ : stripEnd (cs.dropWhile isBlank) <+: cs.dropWhile isBlank :=
      stripEnd_prefix
    have hhead : c ∈ (cs.dropWhile isBlank).head? := by
      rw [strip] at hc
      rw [← htail, List.head?_append, Option.mem_def.1 hc]
      rfl
    exact head?_dropWhile_isBlank c hhead
  last := by
    intro c hc
    rw [strip, stripEnd, List.getLast?_reverse] at hc
    exact head?_dropWhile_isBlank c hc

theorem dropWhile_isBlank_eq (h : ∀ c ∈ cs.head?, isBlank c = false) :
    cs.dropWhile isBlank = cs := by
  cases cs with
  | nil => rfl
  | cons c rest => rw [List.dropWhile_cons, if_neg (by simp [h c rfl])]

theorem IsStripped.strip_eq (h : IsStripped cs) : strip cs = cs := by
  rw [strip, dropWhile_isBlank_eq h.first, stripEnd, dropWhile_isBlank_eq, List.reverse_reverse]
  rw [List.head?_reverse]
  exact h.last

/-! ## Search forms -/

/-- A text in search form. -/
structure IsSearchForm (cs : List Char) : Prop where
  composed : IsComposed cs
  /-- There are only letters, numbers, slashes and blanks. -/
  kept : ∀ c ∈ cs, isKept c = true
  /-- The only blanks are spaces. -/
  space : ∀ c ∈ cs, isBlank c = true → c = ' '
  /-- A space stands between two words. -/
  single : cs.IsChain fun a b => isBlank a = false ∨ isBlank b = false
  stripped : IsStripped cs

theorem isBase_space : IsBase ' ' where
  settled := characterData.compatibilityKeys_apart_firsts.not_mem (by decide +kernel)
  full := characterData.decomposed_apart_firsts.not_mem (by decide +kernel)
  category := by decide +kernel

theorem isLower_space : IsLower ' ' :=
  characterData.lowerKeys_apart_firsts.not_mem (by decide +kernel)

/-- A space composes with nothing. -/
theorem hangulCompose?_space (a : Char) :
    hangulCompose? a ' ' = none ∧ hangulCompose? ' ' a = none := by
  have hspace : ' '.toNat ∉ jamo ∧ ' '.toNat ∉ syllables := by decide +kernel
  constructor
  · exact Option.eq_none_iff_forall_ne_some.2 fun c hc => hspace.1 (mem_jamo_of_hangulCompose? hc).1
  · refine Option.eq_none_iff_forall_ne_some.2 fun c hc => ?_
    rcases (mem_jamo_of_hangulCompose? hc).2.2 with h | h
    · exact hspace.1 h
    · exact hspace.2 h

/-- A composed text is still composed when characters give way to spaces. -/
theorem IsComposed.map_space (h : IsComposed cs) (p : Char → Bool) :
    IsComposed (cs.map fun c => if p c then c else ' ') where
  base := by
    refine List.forall_mem_map.2 fun c hc => ?_
    split
    · exact h.base c hc
    · exact .inl isBase_space
  apart := by
    rw [List.isChain_map]
    refine h.apart.imp fun a b hab => ?_
    split
    · split
      · exact hab
      · exact (hangulCompose?_space a).1
    · exact (hangulCompose?_space _).2

/-- **Texts are simplified to search forms.** -/
theorem isSearchForm_simplify (h : ∀ c ∈ cs, IsSettled c) : IsSearchForm (simplify cs) := by
  -- without marks, and with a space for all that is not kept, the text is composed
  let spaced := (withoutMarks cs).map fun c => if isKept c then c else ' '
  have hspaced : IsComposed spaced := (isComposed_withoutMarks h).map_space isKept
  -- spaces compose with nothing, so blanks can be joined and stripped
  have hchain := isChain_joinBlanks hspaced.apart (fun a => (hangulCompose?_space a).1)
    fun b => (hangulCompose?_space b).2
  have hmem : ∀ c ∈ simplify cs, c = ' ' ∨ c ∈ spaced ∧ isBlank c = false :=
    fun c hc => mem_joinBlanks (isInfix_strip.subset hc)
  have hkept : ∀ c ∈ spaced, isKept c = true := by
    refine List.forall_mem_map.2 fun c _ => ?_
    split
    · next hc => exact hc
    · decide +kernel
  have hstripped := List.IsChain.infix hchain isInfix_strip
  refine ⟨⟨fun c hc => ?_, hstripped.imp fun a b hab => hab.1⟩, fun c hc => ?_,
    fun c hc hblank => ?_, hstripped.imp fun a b hab => hab.2, isStripped_strip⟩
  · rcases hmem c hc with rfl | ⟨hc, -⟩
    · exact .inl isBase_space
    · exact hspaced.base c hc
  · rcases hmem c hc with rfl | ⟨hc, -⟩
    · decide +kernel
    · exact hkept c hc
  · rcases hmem c hc with rfl | ⟨-, hfalse⟩
    · rfl
    · cases hblank.symm.trans hfalse

/-- **Search forms are simplified to themselves.** -/
theorem IsSearchForm.simplify_eq (h : IsSearchForm cs) : simplify cs = cs := by
  have hmap : (cs.map fun c => if isKept c then c else ' ') = cs :=
    List.map_congr_left (fun c hc => if_pos (h.kept c hc)) |>.trans (List.map_id' cs)
  rw [simplify, h.composed.withoutMarks_eq, hmap, joinBlanks_eq h.space h.single,
    h.stripped.strip_eq]

theorem isLower_of_mem_simplify (h : ∀ c ∈ cs, IsLower c) (hd : d ∈ simplify cs) : IsLower d := by
  rcases mem_joinBlanks (isInfix_strip.subset hd) with rfl | ⟨hd, -⟩
  · exact isLower_space
  · obtain ⟨c, hc, rfl⟩ := List.mem_map.1 hd
    split
    · exact characterData.lowerKeys_leftForGood.of_mem_withoutMarks h hc
    · exact isLower_space

theorem isSearchForm_searchForm (cs : List Char) : IsSearchForm (searchForm cs) :=
  isSearchForm_simplify fun _ => isSettled_of_mem_nfkc

theorem isSearchForm_lowerSearchForm (cs : List Char) :
    IsSearchForm (lowerSearchForm cs) ∧ ∀ c ∈ lowerSearchForm cs, IsLower c :=
  ⟨isSearchForm_simplify fun _ => isSettled_of_mem_lower fun _ => isSettled_of_mem_nfkc,
    fun _ => isLower_of_mem_simplify fun _ => isLower_of_mem_lower⟩

/-- The texts that are their own search form are those in search form. -/
theorem searchForm_eq_self_iff : searchForm cs = cs ↔ IsSearchForm cs := by
  constructor
  · intro h
    exact h ▸ isSearchForm_searchForm cs
  · intro h
    rw [searchForm, h.composed.nfkc_eq, h.simplify_eq]

/-- The texts that are their own lower-case search form are those in search form
and in lower case. -/
theorem lowerSearchForm_eq_self_iff :
    lowerSearchForm cs = cs ↔ IsSearchForm cs ∧ ∀ c ∈ cs, IsLower c := by
  constructor
  · intro h
    exact h ▸ isSearchForm_lowerSearchForm cs
  · rintro ⟨h, hlower⟩
    rw [lowerSearchForm, h.composed.nfkc_eq, lower_eq hlower, h.simplify_eq]

/-! ## The characters of a search form -/

/-- **A text in normal form**: it is made of words of letters, numbers and slashes, with
one space between two of them. -/
structure IsNormal (cs : List Char) : Prop where
  kept : ∀ c ∈ cs, c = '/' ∨ c = ' ' ∨ category c = .letter ∨ category c = .number
  unmarked : ∀ c ∈ cs, category c ≠ .mark
  /-- A space is the only white space. -/
  space : ∀ c ∈ cs, isBlank c = true → c = ' '
  first : cs.head? ≠ some ' '
  last : cs.getLast? ≠ some ' '
  /-- No two spaces stand side by side. -/
  apart : ¬ [' ', ' '] <:+: cs

theorem isKept_iff :
    isKept c = true ↔
      c = '/' ∨ isBlank c = true ∨ category c = .letter ∨ category c = .number := by
  simp only [isKept, Bool.or_eq_true, beq_iff_eq, or_assoc]

theorem IsSearchForm.isNormal (h : IsSearchForm cs) : IsNormal cs := by
  have hspace : isBlank ' ' = true := by decide
  have hkept : ∀ c ∈ cs,
      c = '/' ∨ c = ' ' ∨ category c = .letter ∨ category c = .number := fun c hc =>
    (isKept_iff.1 (h.kept c hc)).imp_right (.imp_left (h.space c hc))
  refine ⟨hkept, fun c hc => ?_, h.space, fun hfirst => ?_, fun hlast => ?_, fun hinfix => ?_⟩
  · rcases hkept c hc with rfl | rfl | hletter | hnumber
    · decide +kernel
    · decide +kernel
    · simp [hletter]
    · simp [hnumber]
  · exact absurd hspace (by simp [h.stripped.first ' ' hfirst])
  · exact absurd hspace (by simp [h.stripped.last ' ' hlast])
  · have hspaces := List.IsChain.infix h.single hinfix
    simp [hspace] at hspaces

/-- **The search forms are the composed texts in normal form.** -/
theorem isSearchForm_iff : IsSearchForm cs ↔ IsNormal cs ∧ IsComposed cs := by
  refine ⟨fun h => ⟨h.isNormal, h.composed⟩, fun ⟨h, hcomposed⟩ => ?_⟩
  refine ⟨hcomposed, fun c hc => ?_, h.space, ?_, fun c hc => ?_, fun c hc => ?_⟩
  · have hspace : c = ' ' → isBlank c = true := by
      rintro rfl
      decide
    exact isKept_iff.2 ((h.kept c hc).imp_right (.imp_left hspace))
  · -- blanks side by side would be two spaces
    rw [List.isChain_iff_forall_rel_of_append_cons_cons]
    rintro a b before after rfl
    by_contra hblank
    simp only [not_or, Bool.not_eq_false] at hblank
    obtain rfl := h.space a (by simp) hblank.1
    obtain rfl := h.space b (by simp) hblank.2
    exact h.apart ⟨before, after, by simp⟩
  · refine Bool.eq_false_of_not_eq_true fun hblank => h.first ?_
    rw [← h.space c (List.mem_of_mem_head? hc) hblank]
    exact hc
  · refine Bool.eq_false_of_not_eq_true fun hblank => h.last ?_
    rw [← h.space c (List.mem_of_mem_getLast? hc) hblank]
    exact hc

end Bibliography.Text

namespace Bibliography

/-- **Taking the search form twice is taking it once**, with the case of letters
kept as well as in lower case. -/
theorem searchForm_searchForm (s : String) :
    searchForm (searchForm s) = searchForm s ∧
      lowerSearchForm (lowerSearchForm s) = lowerSearchForm s := by
  unfold searchForm lowerSearchForm
  rw [String.toList_ofList, String.toList_ofList,
    Text.searchForm_eq_self_iff.2 (Text.isSearchForm_searchForm _),
    Text.lowerSearchForm_eq_self_iff.2 (Text.isSearchForm_lowerSearchForm _)]
  exact ⟨rfl, rfl⟩

/-- **Search forms are in normal form**, whatever the text, with the case of letters kept
as well as in lower case; and a text is its own search form just where it is in normal
form and composed. -/
theorem isNormal_searchForm (s : String) :
    Text.IsNormal (searchForm s).toList ∧ Text.IsNormal (lowerSearchForm s).toList ∧
      (searchForm s = s ↔ Text.IsNormal s.toList ∧ Text.IsComposed s.toList) := by
  refine ⟨?_, ?_, ?_⟩
  · rw [searchForm, String.toList_ofList]
    exact (Text.isSearchForm_searchForm _).isNormal
  · rw [lowerSearchForm, String.toList_ofList]
    exact (Text.isSearchForm_lowerSearchForm _).1.isNormal
  · rw [← Text.isSearchForm_iff, ← Text.searchForm_eq_self_iff, searchForm,
      ← String.toList_inj, String.toList_ofList]

end Bibliography
