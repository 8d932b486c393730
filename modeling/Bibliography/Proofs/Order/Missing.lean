import Bibliography.Proofs.Order.Relevance
/-!
# Records that lack what they are ranked by

An unknown year counts as zero, and an author without a family name as none. So among
records of one strength those without a year stand behind the years after zero and
before the years below (`lt_iff_of_hasYear`). Those without an author stand behind
those whose first author has a family name, and for the others titles decide
(`exists_lt_iff_of_authors`).
-/

namespace Bibliography.Order

/-! ## One level after the other -/

section Levels

variable {α : Type} {R : α → α → Prop} {rest : List (α → α → Prop)} {x y : α}

/-- A level that tells two elements apart decides. -/
theorem inTurn_cons_iff_of_apart (hapart : R x y ∨ R y x) :
    InTurn (R :: rest) x y ↔ R x y := by
  constructor
  · rintro (h | ⟨hnot, -⟩)
    · exact h
    · exact hapart.resolve_right hnot
  · exact .inl

/-- A level that does not leaves it to the others. -/
theorem inTurn_cons_iff_of_level (hxy : ¬ R x y) (hyx : ¬ R y x) :
    InTurn (R :: rest) x y ↔ InTurn rest x y := by
  simp [InTurn, hxy, hyx]

/-- Relations that go one way only do so in turn. -/
theorem InTurn.asymm {levels : List (α → α → Prop)}
    (hlevels : ∀ R ∈ levels, ∀ x y, R x y → ¬ R y x) (h : InTurn levels x y) :
    ¬ InTurn levels y x := by
  induction levels with
  | nil => exact h.elim
  | cons R rest ih =>
    obtain ⟨hR, hrest⟩ := List.forall_mem_cons.1 hlevels
    rcases h with hxy | ⟨hyx, h⟩
    · rintro (hyx | ⟨hxy', -⟩)
      · exact hR x y hxy hyx
      · exact hxy' hxy
    · rintro (hyx' | ⟨-, h'⟩)
      · exact hyx hyx'
      · exact ih hrest h h'

end Levels

/-! ## Where ranked records stand -/

section Ranking

variable {α : Type} {strength : α → Match.Strength} {record : α → Record} {l out : List α}
variable {r : Record} {a b : Ranked} {x : α} {n m : Int} {s t : String}

theorem HavingFirst.asymm {P : Record → String → Prop} (h : HavingFirst P a b) :
    ¬ HavingFirst P b a :=
  fun h' => h'.2 h.1

theorem SmallerFirst.asymm {P : Record → String → Prop}
    (hunique : ∀ r s t, P r s → P r t → s = t) (h : SmallerFirst P a b) :
    ¬ SmallerFirst P b a := by
  obtain ⟨s, t, hs, ht, hlt⟩ := h
  rintro ⟨t', s', ht', hs', hlt'⟩
  rw [hunique _ _ _ ht' ht, hunique _ _ _ hs' hs] at hlt'
  exact lt_asymm hlt hlt'

theorem FamilyIs.unique (h : FamilyIs r s) (h' : FamilyIs r t) : s = t :=
  (familyIs_iff.1 h).2.symm.trans (familyIs_iff.1 h').2

theorem TitleIs.unique (h : TitleIs r s) (h' : TitleIs r t) : s = t :=
  (titleIs_iff.1 h).2.symm.trans (titleIs_iff.1 h').2

/-- **Of two ranked records only one comes before the other.** -/
theorem asymm_of_mem_relevanceLevels :
    ∀ R ∈ relevanceLevels, ∀ a b : Ranked, R a b → ¬ R b a := by
  simp only [relevanceLevels, List.forall_mem_cons]
  refine ⟨fun a b => lt_asymm, fun a b => ?year, fun a b => HavingFirst.asymm,
    fun a b => SmallerFirst.asymm fun _ _ _ => FamilyIs.unique, fun a b => HavingFirst.asymm,
    fun a b => SmallerFirst.asymm fun _ _ _ => TitleIs.unique, fun a b => lt_asymm,
    List.forall_mem_nil _⟩
  case year =>
    rintro ⟨n, m, hn, hm, hlt⟩ ⟨m', n', hm', hn', hlt'⟩
    rw [hm'.unique hm, hn'.unique hn] at hlt'
    exact lt_asymm hlt hlt'

/-- **A ranked record stands before another just when it comes before it** in the
order of relevance. -/
theorem exists_lt_iff_inTurn (h : sortByRelevance strength record l = .ok out) :
    ∃ placed : List (α × Nat), placed.map (·.1) = out ∧ placed.Perm l.zipIdx ∧
      ∀ (i j : Nat) (x y : α × Nat), placed[i]? = some x → placed[j]? = some y →
        (i < j ↔ InTurn relevanceLevels ⟨strength x.1, record x.1, x.2⟩
          ⟨strength y.1, record y.1, y.2⟩) :=
  (arrangedBy_sortByRelevance h).exists_lt_iff fun _ _ =>
    InTurn.asymm asymm_of_mem_relevanceLevels

/-- What is ranked has a year, if only an unknown one. -/
theorem exists_yearIs_of_mem (h : sortByRelevance strength record l = .ok out) (hx : x ∈ l) :
    ∃ n, YearIs (record x) n := by
  simp only [sortByRelevance, bind_eq_ok_iff] at h
  obtain ⟨keyed, hkeyed, -⟩ := h
  obtain ⟨rfl, hkey⟩ := mapM_pair_eq_ok hkeyed
  obtain ⟨p, hp, rfl⟩ := List.mem_map.1 hx
  obtain ⟨y, n, hy, hn, -⟩ := key_eq_ok_iff.1 (hkey p hp)
  exact ⟨n, y, hy, hn⟩

/-! ## Years -/

/-- The year that a record has is the one it is ranked by, unless that is zero. -/
theorem YearIs.hasYear_iff (h : YearIs r m) : r.HasYear n ↔ n ≠ 0 ∧ m = n := by
  obtain ⟨y, hy, hm⟩ := h
  obtain ⟨m', hm', hread⟩ := Record.readIntIn_year hy
  obtain rfl := Except.ok.inj (hm.symm.trans hread)
  exact Record.hasYear_iff hm'

/-- Of two records the one of the later year comes first. -/
theorem later_iff {r' : Record} (h : YearIs r n) (h' : YearIs r' m) :
    (∃ n m, YearIs r n ∧ YearIs r' m ∧ m < n) ↔ m < n := by
  constructor
  · rintro ⟨n', m', hn, hm, hlt⟩
    rwa [hn.unique h, hm.unique h'] at hlt
  · exact fun hlt => ⟨n, m, h, h', hlt⟩

/-- **Where records without a year stand.** Of ranked records of one strength, one that
has a year stands before one that has none just when its year is after zero. -/
theorem lt_iff_of_hasYear (h : sortByRelevance strength record l = .ok out) :
    out.Perm l ∧ ∀ (i j : Nat) (x y : α) (n : Int), out[i]? = some x → out[j]? = some y →
      strength x = strength y → (record x).HasYear n → (¬ ∃ m, (record y).HasYear m) →
        (i < j ↔ 0 < n) := by
  have hout : out.Perm l := (arrangedBy_sortByRelevance h).perm
  obtain ⟨placed, rfl, -, hlt⟩ := exists_lt_iff_inTurn h
  refine ⟨hout, fun i j x y n hx hy hstrength hdated hundated => ?_⟩
  obtain ⟨k, hk⟩ := exists_yearIs_of_mem h (hout.mem_iff.1 (List.mem_of_getElem? hx))
  obtain ⟨m, hm⟩ := exists_yearIs_of_mem h (hout.mem_iff.1 (List.mem_of_getElem? hy))
  obtain ⟨hne, rfl⟩ := hk.hasYear_iff.1 hdated
  obtain rfl : m = 0 := by
    by_contra hzero
    exact hundated ⟨m, hm.hasYear_iff.2 ⟨hzero, rfl⟩⟩
  rw [List.getElem?_map, Option.map_eq_some_iff] at hx hy
  obtain ⟨x, hx, rfl⟩ := hx
  obtain ⟨y, hy, rfl⟩ := hy
  rw [hlt i j x y hx hy, relevanceLevels,
    inTurn_cons_iff_of_level (by simp [hstrength]) (by simp [hstrength]),
    inTurn_cons_iff_of_apart, later_iff hk hm]
  rw [later_iff hk hm, later_iff hm hk]
  omega

/-- A record of a year, as a text among blanks. -/
def inEra : Record :=
  ⟨[("issued", .obj [("date-parts", .arr [.arr [.str " 44 "]])])]⟩

/-- A record of as many years before. -/
def beforeEra : Record :=
  ⟨[("issued", .obj [("date-parts", .arr [.arr [.int (-44)]])])]⟩

/-- A record without a year. -/
def undated : Record :=
  ⟨[]⟩

theorem not_hasYear_undated : ¬ ∃ m, undated.HasYear m := by
  rintro ⟨m, hm⟩
  obtain ⟨hne, hzero⟩ := (Record.hasYear_iff (r := undated) (m := 0) rfl).1 hm
  exact hne hzero.symm

theorem lt_iff_of_hasYear_inEra :
    sortByRelevance Prod.fst Prod.snd [(.inPart, undated), (.inPart, inEra)] =
        .ok [(.inPart, inEra), (.inPart, undated)] ∧
      inEra.HasYear 44 ∧ (¬ ∃ m, undated.HasYear m) ∧ ((0 : Nat) < 1 ↔ (0 : Int) < 44) := by
  have hkey : Relevance.of .inPart undated = .ok ⟨1, 0, "", ""⟩ := rfl
  have hkey' : Relevance.of .inPart inEra = .ok ⟨1, 44, "", ""⟩ := rfl
  have hranked : sortByRelevance Prod.fst Prod.snd [(.inPart, undated), (.inPart, inEra)] =
      .ok [(.inPart, inEra), (.inPart, undated)] :=
    Eq.trans (sortByRelevance_pair hkey hkey') rfl
  have hyear : inEra.HasYear 44 := (Record.hasYear_iff rfl).2 ⟨by decide, rfl⟩
  obtain ⟨-, hlt⟩ := lt_iff_of_hasYear hranked
  exact ⟨hranked, hyear, not_hasYear_undated,
    hlt 0 1 (.inPart, inEra) (.inPart, undated) 44 rfl rfl rfl hyear not_hasYear_undated⟩

/-- **A record of a year before the era stands behind one without a year.** -/
theorem sortByRelevance_beforeEra :
    beforeEra.HasYear (-44) ∧ (¬ ∃ m, undated.HasYear m) ∧
      sortByRelevance Prod.fst Prod.snd [(.inPart, beforeEra), (.inPart, undated)] =
        .ok [(.inPart, undated), (.inPart, beforeEra)] := by
  have hkey : Relevance.of .inPart beforeEra = .ok ⟨1, -44, "", ""⟩ := rfl
  have hkey' : Relevance.of .inPart undated = .ok ⟨1, 0, "", ""⟩ := rfl
  exact ⟨(Record.hasYear_iff rfl).2 ⟨by decide, rfl⟩, not_hasYear_undated,
    Eq.trans (sortByRelevance_pair hkey hkey') rfl⟩

/-! ## Authors -/

/-- The levels that decide between records of one strength, one year and one author:
title, a missing one behind, and place. -/
def titleLevels : List (Ranked → Ranked → Prop) :=
  [HavingFirst TitleIs, SmallerFirst TitleIs, fun a b => a.place < b.place]

theorem authorText_eq_empty_iff : r.authorText = "" ↔ r.authorNames = [] := by
  constructor
  · intro hempty
    cases hnames : r.authorNames with
    | nil => rfl
    | cons name names =>
      have hname : name ≠ "" := by
        have hmem : name ∈ r.authorNames := hnames ▸ List.mem_cons_self
        simpa using (List.mem_filter.1 hmem).2
      rw [Record.authorText, hnames] at hempty
      cases names with
      | nil => exact absurd hempty hname
      | cons other names => simp [String.intercalate_cons_cons, hname] at hempty
  · intro hnames
    rw [Record.authorText, hnames]
    rfl

/-- An author with a family name has a name. -/
theorem name_ne_of_family {author : Json} (hne : s ≠ "") (h : Author.part author "family" = s) :
    Author.name author ≠ "" := by
  subst h
  rw [Author.name, if_neg (by simpa using hne)]
  split
  · exact hne
  · simp

/-- A record with a family name in front has an author. -/
theorem FamilyIs.authorText_ne (h : FamilyIs r s) : r.authorText ≠ "" := by
  obtain ⟨hne, author, others, hauthors, hfamily⟩ := h
  have hitems : r.items "author" = author :: others := by
    rw [Record.items, hauthors]
    rfl
  have hname : Author.name author ≠ "" :=
    name_ne_of_family hne ((getD_str?_iff hne).2 hfamily)
  rw [Ne, authorText_eq_empty_iff, Record.authorNames, hitems]
  simp [hname]

theorem not_later_of_year_eq {r' : Record} (h : r.year = r'.year) :
    ¬ ∃ n m, YearIs r n ∧ YearIs r' m ∧ m < n := by
  rintro ⟨n, m, hn, hm, hlt⟩
  have hm' : YearIs r m := by rwa [YearIs, h]
  exact lt_irrefl _ (hn.unique hm' ▸ hlt)

/-- **Where records without an author stand.** Of ranked records of one strength and one
year, one stands before one that has no author if its first author has a family name,
and otherwise, whether it has an author or not, if its title says so or at last its
place. -/
theorem exists_lt_iff_of_authors (h : sortByRelevance strength record l = .ok out) :
    ∃ placed : List (α × Nat), placed.map (·.1) = out ∧ placed.Perm l.zipIdx ∧
      ∀ (i j : Nat) (x y : α × Nat), placed[i]? = some x → placed[j]? = some y →
        strength x.1 = strength y.1 → (record x.1).year = (record y.1).year →
        (record y.1).authorText = "" →
          (i < j ↔ (∃ name, FamilyIs (record x.1) name) ∨
            InTurn titleLevels ⟨strength x.1, record x.1, x.2⟩
              ⟨strength y.1, record y.1, y.2⟩) := by
  obtain ⟨placed, hfst, hperm, hlt⟩ := exists_lt_iff_inTurn h
  refine ⟨placed, hfst, hperm, fun i j x y hx hy hstrength hyear hnone => ?_⟩
  have hy' : ¬ ∃ name, FamilyIs (record y.1) name := fun ⟨_, hname⟩ => hname.authorText_ne hnone
  rw [hlt i j x y hx hy, relevanceLevels,
    inTurn_cons_iff_of_level (by simp [hstrength]) (by simp [hstrength]),
    inTurn_cons_iff_of_level (not_later_of_year_eq hyear) (not_later_of_year_eq hyear.symm)]
  by_cases hx' : ∃ name, FamilyIs (record x.1) name
  · exact iff_of_true (.inl ⟨hx', hy'⟩) (.inl hx')
  · -- no family name on either side, so the titles are next
    rw [inTurn_cons_iff_of_level (fun hfirst => hx' hfirst.1) fun hfirst => hy' hfirst.1,
      inTurn_cons_iff_of_level (fun ⟨s, _, hs, _⟩ => hx' ⟨s, hs⟩) fun ⟨s, _, hs, _⟩ => hy' ⟨s, hs⟩,
      or_iff_right hx', titleLevels]

/-- A record of a title alone. -/
def anonymous : Record :=
  ⟨[("title", .str "A")]⟩

/-- A record of a person, without a title. -/
def byPerson : Record :=
  ⟨[("author", .arr [.obj [("family", .str "Noether")]])]⟩

/-- A record of an institution, without a title. -/
def byInstitution : Record :=
  ⟨[("author", .arr [.obj [("literal", .str "WHO")]])]⟩

theorem exists_lt_iff_of_authors_byPerson :
    sortByRelevance Prod.fst Prod.snd [(.inPart, anonymous), (.inPart, byPerson)] =
        .ok [(.inPart, byPerson), (.inPart, anonymous)] ∧
      byPerson.year = anonymous.year ∧ anonymous.authorText = "" ∧
      ∃ place place' : Nat, (0 : Nat) < 1 ↔
        (∃ name, FamilyIs byPerson name) ∨
          InTurn titleLevels ⟨.inPart, byPerson, place⟩ ⟨.inPart, anonymous, place'⟩ := by
  have hkey : Relevance.of .inPart anonymous = .ok ⟨1, 0, "", "a"⟩ := rfl
  have hkey' : Relevance.of .inPart byPerson = .ok ⟨1, 0, "noether", ""⟩ := rfl
  have hranked : sortByRelevance Prod.fst Prod.snd [(.inPart, anonymous), (.inPart, byPerson)] =
      .ok [(.inPart, byPerson), (.inPart, anonymous)] :=
    Eq.trans (sortByRelevance_pair hkey hkey') rfl
  obtain ⟨placed, hfst, -, hlt⟩ := exists_lt_iff_of_authors hranked
  obtain ⟨⟨_, place⟩, rest, rfl, rfl, hrest⟩ := List.map_eq_cons_iff.1 hfst
  obtain ⟨⟨_, place'⟩, _, rfl, rfl, -⟩ := List.map_eq_cons_iff.1 hrest
  exact ⟨hranked, rfl, rfl, place, place', hlt 0 1 _ _ rfl rfl rfl rfl rfl⟩

/-- **A record of an institution stands behind one without an author**, if that has a
title. -/
theorem sortByRelevance_byInstitution :
    byInstitution.authorText ≠ "" ∧ anonymous.authorText = "" ∧
      byInstitution.year = anonymous.year ∧
      sortByRelevance Prod.fst Prod.snd [(.inPart, byInstitution), (.inPart, anonymous)] =
        .ok [(.inPart, anonymous), (.inPart, byInstitution)] := by
  have hkey : Relevance.of .inPart byInstitution = .ok ⟨1, 0, "", ""⟩ := rfl
  have hkey' : Relevance.of .inPart anonymous = .ok ⟨1, 0, "", "a"⟩ := rfl
  exact ⟨by decide, rfl, rfl, Eq.trans (sortByRelevance_pair hkey hkey') rfl⟩

end Ranking

end Bibliography.Order
