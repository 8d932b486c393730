import Bibliography.Proofs.Order.Lexicographic
import Bibliography.Proofs.Search.Hits
/-!
# Records and hits, side by side

A search keeps the records that it found and their hits in two lists, and
sorts only one of them. `Arranges` lists the ways in which that goes: there
are no others (`arranges_of_arrangement`), and it goes in each of them
(`Arranges.arrangement`). `Arranges.aligned` says that the two lists stay
beside each other whichever way it goes: a record's hit is found again by its
position (`hitAt?_position`), whatever order the records are put in.
-/

namespace Bibliography

open Match (Hit hits hit? hitOf?)
open Query (tokenize)

section Finding

variable {library : List Record} {query : String} {tokens : List Query.Token}
variable {found : Findings} {hs ranked : List Hit} {h : Hit} {direction : Order.Direction}

theorem ofQuery_blank (hblank : isBlankText query) :
    Findings.ofQuery library query = .ok (.all (entries library)) := by
  rw [Findings.ofQuery, if_pos hblank]

theorem ofQuery_eq_ok_iff (hblank : ¬ isBlankText query) :
    Findings.ofQuery library query = .ok found ↔
      ∃ hs, hits (tokenize query) (entries library) = .ok hs ∧ .hits hs = found := by
  rw [Findings.ofQuery, if_neg hblank, map_eq_ok_iff]

/-- **A hit is found again by the position of its record.** -/
theorem hitAt?_position (hhits : hits tokens (entries library) = .ok hs) (hmem : h ∈ hs) :
    Findings.hitAt? hs h.entry.position = some h := by
  obtain ⟨he, hhit⟩ := Match.hit?_of_mem hhits hmem
  cases hat : Findings.hitAt? hs h.entry.position with
  | none => exact absurd (List.find?_eq_none.1 hat h hmem) (by simp)
  | some h' =>
    -- the two are hits of one record, since no other has the position
    obtain ⟨he', hhit'⟩ := Match.hit?_of_mem hhits (List.mem_of_find?_eq_some hat)
    have hposition : h'.entry.position = h.entry.position := by simpa using List.find?_some hat
    rw [eq_of_position_eq he' he hposition, hhit] at hhit'
    cases hhit'
    rfl

/-- So every record that is hit has its hit looked up. -/
theorem exists_hitAt? (hhits : hits tokens (entries library) = .ok hs) {e : Entry}
    (he : e ∈ hs.map (·.entry)) : ∃ h ∈ hs, Findings.hitAt? hs e.position = some h ∧ h.entry = e := by
  obtain ⟨h, hmem, rfl⟩ := List.mem_map.1 he
  exact ⟨h, hmem, hitAt?_position hhits hmem, rfl⟩

/-- **Records that are put in another order get their hits back.** -/
theorem map_entry_filterMap_hitAt? (hhits : hits tokens (entries library) = .ok hs)
    {ordered : List Entry} (hsub : ∀ e ∈ ordered, e ∈ hs.map (·.entry)) :
    (ordered.filterMap fun e => Findings.hitAt? hs e.position).map (·.entry) = ordered := by
  induction ordered with
  | nil => rfl
  | cons e ordered ih =>
    obtain ⟨h, -, hat, hentry⟩ := exists_hitAt? hhits (hsub e List.mem_cons_self)
    have hrest := ih fun e' he' => hsub e' (List.mem_cons_of_mem _ he')
    simp [hat, hentry, hrest]

theorem filterMap_hitAt?_nil {ordered : List Entry} :
    (ordered.filterMap fun e => Findings.hitAt? [] e.position) = [] := by
  simp [Findings.hitAt?]

theorem arrange_field_eq_ok_iff [Calendar.Reader] {f : Order.SortField} {arranged : Arrangement} :
    found.arrange (.field f) direction = .ok arranged ↔
      ∃ ordered, Order.sortByField (·.record) f direction found.entries = .ok ordered ∧
        ⟨ordered, ordered.filterMap fun e => Findings.hitAt? found.details e.position⟩ = arranged := by
  simp only [Findings.arrange, bind_eq_ok_iff, mapError_eq_ok_iff, pure, Except.pure,
    Except.ok.injEq]

theorem rank_eq_ok_iff :
    Findings.rank direction hs = .ok ranked ↔
      ∃ sorted, Order.sortByRelevance (·.strength) (·.entry.record) hs = .ok sorted ∧
        (if direction = .ascending then sorted.reverse else sorted) = ranked := by
  rw [Findings.rank, bind_eq_ok_iff]
  cases direction <;> simp [pure, Except.pure]

/-- Ranking neither loses nor adds a hit. -/
theorem rank_perm (h : Findings.rank direction hs = .ok ranked) : ranked.Perm hs := by
  obtain ⟨sorted, hsorted, rfl⟩ := rank_eq_ok_iff.1 h
  obtain ⟨keyed, hkeyed, hout⟩ := bind_eq_ok_iff.1 hsorted
  cases hout
  have hperm : (Order.sortKeyed Order.Relevance.compareKeys keyed).Perm hs := by
    rw [← (mapM_pair_eq_ok hkeyed).1]
    exact Order.sortKeyed_perm
  split
  · exact (List.reverse_perm _).trans hperm
  · exact hperm

end Finding

/-! ## What a plan finds -/

/-- **The ways in which a plan finds records and puts them in order.** -/
inductive Arranges [Calendar.Reader] (library : List Record) (plan : Plan) : Arrangement → Prop
  /-- A blank query by relevance leaves the library as it is. -/
  | listed :
      isBlankText plan.query → plan.criterion = .relevance →
      Arranges library plan ⟨entries library, []⟩
  /-- A blank query by a field sorts the library. -/
  | sorted {f : Order.SortField} {ordered : List Entry} :
      isBlankText plan.query → plan.criterion = .field f →
      Order.sortByField (·.record) f plan.direction (entries library) = .ok ordered →
      Arranges library plan ⟨ordered, []⟩
  /-- The hits are ranked, and their records go with them. -/
  | ranked {hs ranked : List Hit} :
      ¬ isBlankText plan.query → plan.criterion = .relevance →
      hits (tokenize plan.query) (entries library) = .ok hs →
      Findings.rank plan.direction hs = .ok ranked →
      Arranges library plan ⟨ranked.map (·.entry), ranked⟩
  /-- The records that are hit are sorted, and their hits are looked up. -/
  | realigned {f : Order.SortField} {hs : List Hit} {ordered : List Entry} :
      ¬ isBlankText plan.query → plan.criterion = .field f →
      hits (tokenize plan.query) (entries library) = .ok hs →
      Order.sortByField (·.record) f plan.direction (hs.map (·.entry)) = .ok ordered →
      Arranges library plan ⟨ordered, ordered.filterMap fun e => Findings.hitAt? hs e.position⟩

section Arranging

variable {library : List Record} {plan : Plan} {found : Arrangement}

/-- **A plan finds records in no other way.** -/
theorem arranges_of_arrangement [Calendar.Reader] (h : plan.arrangement library = .ok found) :
    Arranges library plan found := by
  obtain ⟨findings, hfindings, harrange⟩ := bind_eq_ok_iff.1 h
  rw [mapError_eq_ok_iff] at hfindings
  by_cases hblank : isBlankText plan.query
  · rw [ofQuery_blank hblank] at hfindings
    cases hfindings
    cases hcriterion : plan.criterion with
    | relevance =>
      rw [hcriterion] at harrange
      cases harrange
      exact .listed hblank hcriterion
    | field f =>
      rw [hcriterion, arrange_field_eq_ok_iff] at harrange
      obtain ⟨ordered, hordered, rfl⟩ := harrange
      rw [Findings.details, filterMap_hitAt?_nil]
      exact .sorted hblank hcriterion hordered
  · obtain ⟨hs, hhits, rfl⟩ := (ofQuery_eq_ok_iff hblank).1 hfindings
    cases hcriterion : plan.criterion with
    | relevance =>
      rw [hcriterion] at harrange
      obtain ⟨ranked, hranked, rfl⟩ := map_eq_ok_iff.1 harrange
      exact .ranked hblank hcriterion hhits (mapError_eq_ok_iff.1 hranked)
    | field f =>
      rw [hcriterion, arrange_field_eq_ok_iff] at harrange
      obtain ⟨ordered, hordered, rfl⟩ := harrange
      exact .realigned hblank hcriterion hhits hordered

/-- **And in each of these ways it does find them.** -/
theorem Arranges.arrangement [Calendar.Reader] (h : Arranges library plan found) :
    plan.arrangement library = .ok found := by
  simp only [Plan.arrangement, bind_eq_ok_iff, mapError_eq_ok_iff]
  cases h with
  | listed hblank hcriterion =>
    refine ⟨_, ofQuery_blank hblank, ?_⟩
    rw [hcriterion]
    rfl
  | sorted hblank hcriterion hordered =>
    refine ⟨_, ofQuery_blank hblank, ?_⟩
    rw [hcriterion, arrange_field_eq_ok_iff]
    exact ⟨_, hordered, by rw [Findings.details, filterMap_hitAt?_nil]⟩
  | ranked hne hcriterion hhits hranked =>
    refine ⟨_, (ofQuery_eq_ok_iff hne).2 ⟨_, hhits, rfl⟩, ?_⟩
    rw [hcriterion]
    exact map_eq_ok_iff.2 ⟨_, mapError_eq_ok_iff.2 hranked, rfl⟩
  | realigned hne hcriterion hhits hordered =>
    refine ⟨_, (ofQuery_eq_ok_iff hne).2 ⟨_, hhits, rfl⟩, ?_⟩
    rw [hcriterion, arrange_field_eq_ok_iff]
    exact ⟨_, hordered, rfl⟩

/-- **The hits stand beside their records**: none for a blank query, and
otherwise for each record the hit that it is. -/
structure Aligned (query : String) (found : Arrangement) : Prop where
  blank : isBlankText query → found.hits = []
  entries_eq : ¬ isBlankText query → found.hits.map (·.entry) = found.entries
  hit : ∀ h ∈ found.hits, hit? (tokenize query) h.entry = .ok (some h)

theorem Aligned.length_hits_le {query : String} (h : Aligned query found) :
    found.hits.length ≤ found.entries.length := by
  by_cases hblank : isBlankText query
  · simp [h.blank hblank]
  · rw [← h.entries_eq hblank, List.length_map]

/-- **However records are put in order, their hits stand beside them.** -/
theorem Arranges.aligned [Calendar.Reader] (h : Arranges library plan found) :
    Aligned plan.query found := by
  cases h with
  | listed hblank _ => exact ⟨fun _ => rfl, fun hne => absurd hblank hne, by simp⟩
  | sorted hblank _ _ => exact ⟨fun _ => rfl, fun hne => absurd hblank hne, by simp⟩
  | ranked hne _ hhits hranked =>
    refine ⟨fun hblank => absurd hblank hne, fun _ => rfl, fun h hmem => ?_⟩
    exact (Match.hit?_of_mem hhits ((rank_perm hranked).mem_iff.1 hmem)).2
  | realigned hne _ hhits hordered =>
    have hperm := Order.sortByField_perm hordered
    refine ⟨fun hblank => absurd hblank hne, fun _ => ?_, fun h hmem => ?_⟩
    · exact map_entry_filterMap_hitAt? hhits fun e he => hperm.mem_iff.1 he
    · obtain ⟨e, -, hat⟩ := List.mem_filterMap.1 hmem
      exact (Match.hit?_of_mem hhits (List.mem_of_find?_eq_some hat)).2

end Arranging

/-! ## The page that is shown -/

section Pages

variable {library : List Record} {query : String} {request : Request} {plan : Plan}
variable {found : Arrangement} {page : SearchPage} {limit offset : Nat}

/-- **The page of the hits is cut where the page of the records is.** -/
theorem Aligned.hits_of (h : Aligned query found) :
    (SearchPage.of found limit offset).hits = (Page.of found.hits limit offset).items := by
  have hslice : (SearchPage.of found limit offset).hits =
      (found.hits.drop offset).take (Page.of found.entries limit offset).items.length := by
    simp only [SearchPage.of, ← Int.natCast_add, Page.slice_natCast]
    rw [List.drop_take, Nat.add_sub_cancel_left]
  rw [hslice]
  by_cases hblank : isBlankText query
  · simp [h.blank hblank, Page.items_of]
  · have hlength : found.entries.length = found.hits.length := by
      rw [← h.entries_eq hblank, List.length_map]
    rw [Page.items_of, Page.items_of]
    split
    · rw [List.take_of_length_le]
      simp [hlength]
    · simp [hlength, List.take_eq_take_iff]

theorem plan_eq_ok_iff :
    request.plan = .ok plan ↔
      ∃ criterion direction, Order.Criterion.ofName request.sort = .ok criterion ∧
        Order.Direction.ofName request.order = .ok direction ∧
        (0 ≤ request.limit ∧ 0 ≤ request.offset) ∧
        ⟨request.query, criterion, direction, request.limit, request.offset⟩ = plan := by
  have hbounds : 0 ≤ request.limit ∧ 0 ≤ request.offset ↔
      ¬ (request.limit < 0 || request.offset < 0) := by simp
  simp only [Request.plan, bind_eq_ok_iff, mapError_eq_ok_iff, hbounds, exists_and_left]
  refine exists_congr fun criterion => and_congr_right fun _ => ?_
  refine exists_congr fun direction => and_congr_right fun _ => ?_
  split
  · next hnegative =>
    refine ⟨fun h => ?_, fun h => absurd hnegative h.1⟩
    cases h
  · next hnegative => simp [hnegative, pure, Except.pure]

theorem search_eq_ok_iff [Calendar.Reader] :
    search library request = .ok page ↔
      ∃ plan found, request.plan = .ok plan ∧ plan.arrangement library = .ok found ∧
        SearchPage.of found plan.limit plan.offset = page := by
  simp only [search, bind_eq_ok_iff, pure, Except.pure, Except.ok.injEq, exists_and_left]

/-- **Whatever page is asked for, the same is found.** Where a search returns,
it returns for every limit and every offset, and all its pages are pages of
one arrangement. -/
theorem exists_arrangement [Calendar.Reader] (h : search library request = .ok page) :
    ∃ found, Aligned request.query found ∧ ∀ limit offset : Nat,
      search library { request with limit, offset } = .ok (SearchPage.of found limit offset) := by
  obtain ⟨_, found, hplan, hfound, -⟩ := search_eq_ok_iff.1 h
  obtain ⟨criterion, direction, hcriterion, hdirection, -, rfl⟩ := plan_eq_ok_iff.1 hplan
  refine ⟨found, (arranges_of_arrangement hfound).aligned, fun limit offset => ?_⟩
  have hplan' : { request with limit, offset : Request }.plan =
      .ok ⟨request.query, criterion, direction, limit, offset⟩ :=
    plan_eq_ok_iff.2 ⟨criterion, direction, hcriterion, hdirection,
      ⟨Int.natCast_nonneg limit, Int.natCast_nonneg offset⟩, rfl⟩
  -- neither number has a part in what a plan finds
  exact search_eq_ok_iff.2 ⟨_, found, hplan', hfound, rfl⟩

/-- The page that was asked for is one of these. -/
theorem exists_eq_of_search [Calendar.Reader] (h : search library request = .ok page) :
    ∃ (found : Arrangement) (limit offset : Nat), page = SearchPage.of found limit offset ∧
      ∀ offset : Nat,
        search library { request with offset } = .ok (SearchPage.of found limit offset) := by
  obtain ⟨plan, _, hplan, -, -⟩ := search_eq_ok_iff.1 h
  obtain ⟨_, _, -, -, ⟨hlimit, hoffset⟩, -⟩ := plan_eq_ok_iff.1 hplan
  obtain ⟨found, -, hsearch⟩ := exists_arrangement h
  obtain ⟨query, sort, order, limit, offset⟩ := request
  lift limit to Nat using hlimit
  lift offset to Nat using hoffset
  exact ⟨found, limit, offset, Except.ok.inj (h.symm.trans (hsearch limit offset)), hsearch limit⟩

end Pages

end Bibliography
