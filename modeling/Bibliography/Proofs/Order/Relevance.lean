import Bibliography.Order.Relevance
import Bibliography.Proofs.Match.Table
import Bibliography.Proofs.Order.Lexicographic
import Bibliography.Proofs.Record.Year
import Bibliography.Proofs.Text.Lowering
/-!
# The order of relevance

Ranking compares keys that are made of numbers, flags and texts. What comes
of it is an order told of the records themselves, level by level
(`relevanceLevels`): `exists_sortByRelevance` says that records are ranked
wherever their years can be told, that each then comes before all that it
precedes, and that ranking again changes nothing.
-/

namespace Bibliography.Order

/-! ## The order that is meant -/

/-- Relations asked in turn: the first that tells two elements apart says
which comes first. -/
def InTurn {α : Type} : List (α → α → Prop) → α → α → Prop
  | [], _, _ => False
  | R :: rest, a, b => R a b ∨ ¬ R b a ∧ InTurn rest a b

/-- A record that matched with some strength, and the place where it stood. -/
structure Ranked where
  strength : Match.Strength
  record : Record
  place : Nat

/-- The number that the text of a record's year writes. -/
def YearIs (r : Record) (n : Int) : Prop :=
  ∃ y, r.year = .ok y ∧ Text.readIntIn 10 y.toList = .ok n

/-- The family name of the first author, where there is one. -/
def FamilyIs (r : Record) (name : String) : Prop :=
  name ≠ "" ∧ ∃ author others, r.get? "author" = some (.arr (author :: others)) ∧
    author.get? "family" = some (.str name)

/-- The title, where there is one. -/
def TitleIs (r : Record) (title : String) : Prop :=
  title ≠ "" ∧ r.get? "title" = some (.str title)

/-- A record that has a text of some kind comes before one that has none. -/
def HavingFirst (P : Record → String → Prop) (a b : Ranked) : Prop :=
  (∃ s, P a.record s) ∧ ¬ ∃ s, P b.record s

/-- Of two records that have a text, the one whose text is smaller in lower
case comes first. -/
def SmallerFirst (P : Record → String → Prop) (a b : Ranked) : Prop :=
  ∃ s t, P a.record s ∧ P b.record t ∧ lowered s < lowered t

/-- **The levels of the order of relevance**, the first to decide first:
strength, year, family name and title, each missing one behind, and place. -/
def relevanceLevels : List (Ranked → Ranked → Prop) :=
  [fun a b => b.strength.rank < a.strength.rank,
    fun a b => ∃ n m, YearIs a.record n ∧ YearIs b.record m ∧ m < n,
    HavingFirst FamilyIs, SmallerFirst FamilyIs,
    HavingFirst TitleIs, SmallerFirst TitleIs,
    fun a b => a.place < b.place]

/-! ## The keys -/

section Keys

variable {α : Type} {R : α → α → Prop} {rest : List (α → α → Prop)} {x y : α} {o p : Ordering}
variable {a b : Ranked} {k k' : Relevance} {r : Record} {s : String} {Q : Prop}

instance transCmp_compareText : Std.TransCmp Relevance.compareText :=
  inferInstanceAs (Std.TransCmp (compareLex (compareOn String.isEmpty) compare))

instance transCmp_compareKeys : Std.TransCmp Relevance.compareKeys :=
  inferInstanceAs (Std.TransCmp
    (compareLex (Direction.descending.directed (compareOn Relevance.rank))
      (compareLex (Direction.descending.directed (compareOn Relevance.year))
        (compareLex (fun a b => Relevance.compareText a.family b.family)
          (fun a b => Relevance.compareText a.title b.title)))))

theorem YearIs.unique {n m : Int} (h : YearIs r n) (h' : YearIs r m) : n = m := by
  obtain ⟨y, hy, hn⟩ := h
  obtain ⟨y', hy', hm⟩ := h'
  cases hy.symm.trans hy'
  cases hn.symm.trans hm
  rfl

/-- One comparison of several is one relation of several. -/
theorem InTurn.step (h : o.then p = .lt ∨ o.then p = .eq ∧ Q) (hlt : o = .lt → R x y)
    (heq : o = .eq → ¬ R y x)
    (hrest : o = .eq → (p = .lt ∨ p = .eq ∧ Q) → InTurn rest x y) : InTurn (R :: rest) x y := by
  cases o with
  | lt => exact .inl (hlt rfl)
  | eq => exact .inr ⟨heq rfl, hrest rfl h⟩
  | gt => simp at h

theorem isEmpty_lowered : (lowered s).isEmpty = s.isEmpty := by
  have hiff : lowered s = "" ↔ s = "" := by
    rw [← String.toList_inj, lowered, String.toList_ofList]
    simp [Text.lower_eq_nil_iff]
  rw [Bool.eq_iff_iff]
  simpa using hiff

/-- **Two levels for one text**: where it is there, and what it is. -/
theorem InTurn.text {P : Record → String → Prop} {g : Record → String} {rest : List _}
    (hP : ∀ r s, P r s ↔ s ≠ "" ∧ g r = s)
    (h : (Relevance.compareText (lowered (g a.record)) (lowered (g b.record))).then p = .lt ∨
      (Relevance.compareText (lowered (g a.record)) (lowered (g b.record))).then p = .eq ∧ Q)
    (hrest : (p = .lt ∨ p = .eq ∧ Q) → InTurn rest a b) :
    InTurn (HavingFirst P :: SmallerFirst P :: rest) a b := by
  have hhas : ∀ r, (∃ s, P r s) ↔ (g r).isEmpty = false := by
    intro r
    simp [hP]
  have hflag : ∀ x y : Bool, compare x y = .lt → x = false ∧ y = true := by decide
  have hsame : ∀ x y : Bool, compare x y = .eq → x = y := by decide
  rw [Relevance.compareText, Ordering.then_assoc, isEmpty_lowered, isEmpty_lowered] at h
  refine InTurn.step h (fun hlt => ?first) (fun heq => ?level) fun hempty h => ?text
  case first =>
    obtain ⟨ha, hb⟩ := hflag _ _ hlt
    exact ⟨(hhas _).2 ha, fun hex => by simp [(hhas _).1 hex] at hb⟩
  case level =>
    rintro ⟨hb, ha⟩
    rw [hhas, hsame _ _ heq, ← hhas] at ha
    exact ha hb
  case text =>
    refine InTurn.step h (fun hlt => ?smaller) (fun heq => ?equal) fun _ => hrest
    case smaller =>
      -- were both texts missing, they would be equal
      have ha : (g a.record).isEmpty = false := by
        by_contra hmissing
        have hmissing' := hsame _ _ hempty ▸ hmissing
        simp only [Bool.not_eq_false, String.isEmpty_iff] at hmissing hmissing'
        rw [hmissing, hmissing', compare_lt_iff_lt] at hlt
        exact lt_irrefl _ hlt
      obtain ⟨s, hs⟩ := (hhas _).2 ha
      obtain ⟨t, ht⟩ := (hhas _).2 (hsame _ _ hempty ▸ ha)
      refine ⟨s, t, hs, ht, ?_⟩
      rwa [((hP _ _).1 hs).2, ((hP _ _).1 ht).2, compare_lt_iff_lt] at hlt
    case equal =>
      rintro ⟨t, s, ht, hs, hlt⟩
      rw [compare_eq_iff_eq, ((hP _ _).1 hs).2, ((hP _ _).1 ht).2] at heq
      exact absurd hlt (heq ▸ lt_irrefl _)

theorem key_eq_ok_iff {strength : Match.Strength} :
    Relevance.of strength r = .ok k ↔ ∃ y n, r.year = .ok y ∧ Text.readIntIn 10 y.toList = .ok n ∧
      ⟨strength.rank, n, lowered r.firstFamily, lowered ((r.str? "title").getD "")⟩ = k := by
  simp only [Relevance.of, bind_eq_ok_iff, pure, Except.pure, Except.ok.injEq]
  constructor
  · rintro ⟨y, hy, n, hn, hk⟩
    exact ⟨y, n, hy, hn, hk⟩
  · rintro ⟨y, n, hy, hn, hk⟩
    exact ⟨y, hy, n, hn, hk⟩

/-- A text that is not empty is one only if it stands there. -/
theorem getD_str?_iff {o : Option Json} (hne : s ≠ "") :
    (o.bind Json.str?).getD "" = s ↔ o = some (.str s) := by
  cases o with
  | none => simpa using hne.symm
  | some j => cases j <;> simp [Json.str?, hne.symm]

theorem familyIs_iff : FamilyIs r s ↔ s ≠ "" ∧ r.firstFamily = s := by
  refine and_congr_right fun hne => ?_
  have hfirst : r.firstFamily = s ↔
      ∃ author others, r.items "author" = author :: others ∧ Author.part author "family" = s := by
    unfold Record.firstFamily
    cases r.items "author" with
    | nil => simpa using hne.symm
    | cons author others => simp
  have hauthors := Match.getD_arr?_iff (o := r.get? "author")
    (fun items => ∃ author others, items = author :: others ∧ Author.part author "family" = s)
    (by simp)
  refine Iff.trans ?_ (hfirst.trans hauthors).symm
  constructor
  · rintro ⟨author, others, hget, hname⟩
    exact ⟨_, hget, author, others, rfl, (getD_str?_iff hne).2 hname⟩
  · rintro ⟨_, hget, author, others, rfl, hname⟩
    exact ⟨author, others, hget, (getD_str?_iff hne).1 hname⟩

theorem titleIs_iff : TitleIs r s ↔ s ≠ "" ∧ (r.str? "title").getD "" = s :=
  and_congr_right fun hne => (getD_str?_iff hne).symm

/-- **The keys of records are compared level by level.** -/
theorem inTurn_of_compareKeys (ha : Relevance.of a.strength a.record = .ok k)
    (hb : Relevance.of b.strength b.record = .ok k')
    (h : k.compareKeys k' = .lt ∨ k.compareKeys k' = .eq ∧ a.place < b.place) :
    InTurn relevanceLevels a b := by
  obtain ⟨y, n, hy, hn, rfl⟩ := key_eq_ok_iff.1 ha
  obtain ⟨y', n', hy', hn', rfl⟩ := key_eq_ok_iff.1 hb
  refine InTurn.step h (fun hlt => compare_lt_iff_lt.1 hlt)
    (fun heq => (compare_eq_iff_eq.1 heq).not_gt) fun _ h => ?_
  refine InTurn.step h (fun hlt => ⟨n, n', ⟨y, hy, hn⟩, ⟨y', hy', hn'⟩, compare_lt_iff_lt.1 hlt⟩)
    (fun heq => ?_) fun _ h => ?_
  · rintro ⟨m', m, hm', hm, hlt⟩
    have hyear : n' = n := compare_eq_iff_eq.1 heq
    rw [hm.unique ⟨y, hy, hn⟩, hm'.unique ⟨y', hy', hn'⟩, hyear] at hlt
    exact lt_irrefl _ hlt
  refine InTurn.text (fun _ _ => familyIs_iff) h fun h => ?_
  refine InTurn.text (p := .eq) (fun _ _ => titleIs_iff) (by simpa using h) fun h => ?_
  exact .inl (by simpa using h)

end Keys

/-! ## The order that comes out -/

section Ranking

variable {α κ : Type} {strength : α → Match.Strength} {record : α → Record} {l out : List α}

/-- **Sorting by keys that stand in order changes nothing.** -/
theorem sortKeyed_of_pairwise {c : κ → κ → Ordering} {keyed : List (κ × α)}
    (h : keyed.Pairwise fun p q => (c p.1 q.1).isLE = true) :
    sortKeyed c keyed = keyed.map (·.2) :=
  congrArg _ (List.mergeSort_of_pairwise h)

theorem arrangedBy_sortByRelevance (h : sortByRelevance strength record l = .ok out) :
    ArrangedBy
      (fun x y => InTurn relevanceLevels ⟨strength x.1, record x.1, x.2⟩
        ⟨strength y.1, record y.1, y.2⟩) l out := by
  simp only [sortByRelevance, bind_eq_ok_iff] at h
  obtain ⟨keyed, hkeyed, hout⟩ := h
  cases hout
  obtain ⟨rfl, hkey⟩ := mapM_pair_eq_ok hkeyed
  refine (arrangedBy_self.sortKeyed (c := Relevance.compareKeys)
    (K := fun x k => Relevance.of (strength x) (record x) = .ok k) hkey).imp ?_
  rintro x y ⟨k, k', hk, hk', hxy⟩
  exact inTurn_of_compareKeys (a := ⟨_, _, x.2⟩) (b := ⟨_, _, y.2⟩) hk hk' hxy

/-- Two records stay as they stand unless the second has the smaller key. -/
theorem sortByRelevance_pair {x y : α} {k k' : Relevance}
    (hx : Relevance.of (strength x) (record x) = .ok k)
    (hy : Relevance.of (strength y) (record y) = .ok k') :
    sortByRelevance strength record [x, y] =
      .ok (if (k.compareKeys k').isLE then [x, y] else [y, x]) := by
  have hkeys : ∀ p ∈ [(k, x), (k', y)], Relevance.of (strength p.2) (record p.2) = .ok p.1 := by
    simp [hx, hy]
  have hkeyed : ([x, y].mapM fun x => return (← Relevance.of (strength x) (record x), x)) =
      .ok [(k, x), (k', y)] :=
    mapM_pair_map_snd (f := fun x => Relevance.of (strength x) (record x)) hkeys
  rw [sortByRelevance, hkeyed]
  exact congrArg Except.ok (sortKeyed_pair _ k k' x y)

/-- Records that are ranked stay as they are. -/
theorem sortByRelevance_idem (h : sortByRelevance strength record l = .ok out) :
    sortByRelevance strength record out = .ok out := by
  simp only [sortByRelevance, bind_eq_ok_iff] at h ⊢
  obtain ⟨keyed, hkeyed, hout⟩ := h
  cases hout
  obtain ⟨rfl, hkey⟩ := mapM_pair_eq_ok hkeyed
  -- the keys that come out are the ones that went in, now in order
  refine ⟨_, mapM_pair_map_snd fun p hp => hkey p (sortBy_perm.mem_iff.1 hp), ?_⟩
  exact congrArg Except.ok (sortKeyed_of_pairwise pairwise_isLE_sortBy)

/-- Records are ranked wherever their years can be told. -/
theorem exists_sortByRelevance_eq_ok (h : ∀ x ∈ l, ∃ y, (record x).year = .ok y) :
    ∃ out, sortByRelevance strength record l = .ok out := by
  have hkeys : ∀ x ∈ l, ∃ k, Relevance.of (strength x) (record x) = .ok k := by
    intro x hx
    obtain ⟨y, hy⟩ := h x hx
    obtain ⟨n, -, hn⟩ := Record.readIntIn_year hy
    exact ⟨_, key_eq_ok_iff.2 ⟨y, n, hy, hn, rfl⟩⟩
  obtain ⟨keyed, hkeyed⟩ := exists_mapM_pair_iff.2 hkeys
  exact ⟨_, bind_eq_ok_iff.2 ⟨keyed, hkeyed, rfl⟩⟩

/-- **Ranking puts records in the order of relevance.** Records whose years
can be told are ranked. What comes out is what went in, each before all that it
precedes: by strength, by year, by family name, by title and at last by place.
Ranked again it stays as it is. -/
theorem exists_sortByRelevance (h : ∀ x ∈ l, ∃ y, (record x).year = .ok y) :
    ∃ out, sortByRelevance strength record l = .ok out ∧
      out.Perm l ∧
      ArrangedBy
        (fun x y => InTurn relevanceLevels ⟨strength x.1, record x.1, x.2⟩
          ⟨strength y.1, record y.1, y.2⟩) l out ∧
      sortByRelevance strength record out = .ok out := by
  have hranked : ∃ out, sortByRelevance strength record l = .ok out :=
    exists_sortByRelevance_eq_ok h
  obtain ⟨out, hout⟩ := hranked
  have harranged := arrangedBy_sortByRelevance hout
  exact ⟨out, hout, harranged.perm, harranged, sortByRelevance_idem hout⟩

/-- Records that match alike, the first of no year, the others of one year that
is a text in one and a number in the other. -/
def datedRecords : List (Match.Strength × Record) :=
  [(.inPart, ⟨[("title", .str "A")]⟩),
    (.inPart, ⟨[("issued", .obj [("date-parts", .arr [.arr [.str " 2020 "]])])]⟩),
    (.inPart, ⟨[("issued", .obj [("date-parts", .arr [.arr [.int 2020]])]), ("title", .str "b")]⟩)]

theorem exists_sortByRelevance_datedRecords :
    (∀ x ∈ datedRecords, ∃ y, x.2.year = .ok y) ∧
      ∃ out, sortByRelevance Prod.fst Prod.snd datedRecords = .ok out ∧
        out.Perm datedRecords ∧
        ArrangedBy
          (fun x y => InTurn relevanceLevels ⟨x.1.1, x.1.2, x.2⟩ ⟨y.1.1, y.1.2, y.2⟩)
          datedRecords out ∧
        sortByRelevance Prod.fst Prod.snd out = .ok out := by
  have hyears : ∀ x ∈ datedRecords, ∃ y, x.2.year = .ok y := by
    simp only [datedRecords, List.forall_mem_cons]
    exact ⟨⟨"0000", rfl⟩, ⟨"2020", rfl⟩, ⟨"2020", rfl⟩, by simp⟩
  exact ⟨hyears, exists_sortByRelevance hyears⟩

end Ranking

end Bibliography.Order
