import Bibliography.Proofs.Search.Arrangement
/-!
# What a search shows

A page of a search is told without the search: `matched` are the records that
a query is to find, `Ordered` is the order they are to stand in, and
`ShowsPage` cuts the page out of them and puts the hits beside it.
`search_showsPage` says that every search shows this page.
-/

namespace Bibliography

open Match (Hit hits hit? hitOf?)
open Query (tokenize)

/-- Whether a query finds a record: every record if it is blank, and otherwise
those that its tokens hit. -/
def isMatched (query : String) (e : Entry) : Bool :=
  isBlankText query || (hitOf? (tokenize query) e).isSome

/-- The records that a query finds, in the order of the library. -/
def matched (library : List Record) (query : String) : List Entry :=
  (entries library).filter (isMatched query)

/-- **The order that is asked for**, of the records that a query finds. -/
inductive Ordered [Calendar.Reader] (query : String) (direction : Order.Direction)
    (found : List Entry) : Order.Criterion → List Entry → Prop
  /-- By a field, as records are sorted by it. -/
  | field {f : Order.SortField} {ordered : List Entry} :
      Order.sortByField (·.record) f direction found = .ok ordered →
      Ordered query direction found (.field f) ordered
  /-- By relevance for a blank query, as they are. -/
  | unranked : isBlankText query → Ordered query direction found .relevance found
  /-- By relevance otherwise, as their hits are ranked, the least relevant
  first where the order is ascending. -/
  | ranked {hs ranked : List Hit} :
      ¬ isBlankText query → hs.map (·.entry) = found →
      (∀ h ∈ hs, hit? (tokenize query) h.entry = .ok (some h)) →
      Order.sortByRelevance (·.strength) (·.entry.record) hs = .ok ranked →
      Ordered query direction found .relevance
        ((if direction = .ascending then ranked.reverse else ranked).map (·.entry))

/-- **The page that a request is to show** of a library, where `ordered` are
the records that it finds, in order. -/
structure ShowsPage [Calendar.Reader] (library : List Record) (request : Request)
    (ordered : List Entry) (page : SearchPage) : Prop where
  /-- The order is the one that the names in the request ask for. -/
  exists_ordered : ∃ criterion direction,
    Order.Criterion.ofName request.sort = .ok criterion ∧
    Order.Direction.ofName request.order = .ok direction ∧
    Ordered request.query direction (matched library request.query) criterion ordered
  /-- All that is found is counted. -/
  total_eq : page.total = (matched library request.query).length
  /-- The items stand from the offset on, up to the limit if there is one. -/
  items_eq : page.items =
    if 0 < request.limit then (ordered.drop request.offset.toNat).take request.limit.toNat
    else ordered.drop request.offset.toNat
  /-- A blank query has no hits. -/
  hits_blank : isBlankText request.query → page.hits = []
  /-- Otherwise each item has its hit beside it. -/
  entries_hits : ¬ isBlankText request.query → page.hits.map (·.entry) = page.items
  hit_eq : ∀ h ∈ page.hits, hit? (tokenize request.query) h.entry = .ok (some h)
  /-- No hit is missed when the hits are put beside the records in order. -/
  exists_hitAt? : ¬ isBlankText request.query →
    ∃ hs, hits (tokenize request.query) (entries library) = .ok hs ∧
      ∀ e ∈ ordered, ∃ h ∈ hs, Findings.hitAt? hs e.position = some h ∧ h.entry = e

section Reference

variable {library : List Record} {query : String} {request : Request} {page : SearchPage}
variable {plan : Plan} {found : Arrangement} {hs ranked : List Hit}

theorem matched_blank (hblank : isBlankText query) : matched library query = entries library := by
  simp [matched, isMatched, hblank]

theorem matched_hits (hblank : ¬ isBlankText query)
    (hhits : hits (tokenize query) (entries library) = .ok hs) :
    matched library query = hs.map (·.entry) := by
  obtain ⟨-, rfl⟩ := Match.hits_eq_ok_iff.1 hhits
  rw [Match.map_entry_filterMap fun _ _ => Match.entry_of_hitOf?]
  refine List.filter_congr fun e _ => ?_
  simp [isMatched, hblank]

/-- **What a plan finds is what is to be found, in the order asked for.** -/
theorem Arranges.ordered [Calendar.Reader] (h : Arranges library plan found) :
    Ordered plan.query plan.direction (matched library plan.query) plan.criterion found.entries := by
  cases h with
  | listed hblank hcriterion =>
    rw [matched_blank hblank, hcriterion]
    exact .unranked hblank
  | sorted hblank hcriterion hordered =>
    rw [matched_blank hblank, hcriterion]
    exact .field hordered
  | ranked hne hcriterion hhits hranked =>
    obtain ⟨sorted, hsorted, rfl⟩ := rank_eq_ok_iff.1 hranked
    rw [matched_hits hne hhits, hcriterion]
    exact .ranked hne rfl (fun h hmem => (Match.hit?_of_mem hhits hmem).2) hsorted
  | realigned hne hcriterion hhits hordered =>
    rw [matched_hits hne hhits, hcriterion]
    exact .field hordered

theorem Arranges.perm [Calendar.Reader] (h : Arranges library plan found) :
    found.entries.Perm (matched library plan.query) := by
  cases h with
  | listed hblank _ => rw [matched_blank hblank]
  | sorted hblank _ hordered =>
    rw [matched_blank hblank]
    exact Order.sortByField_perm hordered
  | ranked hne _ hhits hranked =>
    rw [matched_hits hne hhits]
    exact (rank_perm hranked).map _
  | realigned hne _ hhits hordered =>
    rw [matched_hits hne hhits]
    exact Order.sortByField_perm hordered

/-- **No hit is missed**: each record in order has its hit looked up. -/
theorem Arranges.exists_hitAt? [Calendar.Reader] (h : Arranges library plan found)
    (hne : ¬ isBlankText plan.query) :
    ∃ hs, hits (tokenize plan.query) (entries library) = .ok hs ∧
      ∀ e ∈ found.entries, ∃ h ∈ hs, Findings.hitAt? hs e.position = some h ∧ h.entry = e := by
  have hhits : ∃ hs, hits (tokenize plan.query) (entries library) = .ok hs := by
    cases h with
    | listed hblank _ => exact absurd hblank hne
    | sorted hblank _ _ => exact absurd hblank hne
    | ranked _ _ hhits _ => exact ⟨_, hhits⟩
    | realigned _ _ hhits _ => exact ⟨_, hhits⟩
  obtain ⟨hs, hhits⟩ := hhits
  refine ⟨hs, hhits, fun e he => Bibliography.exists_hitAt? hhits ?_⟩
  rw [← matched_hits hne hhits]
  exact h.perm.mem_iff.1 he

/-- **Every search shows the page that it is to show.** Whenever a search
returns, its page is the one that the request's names, offset and limit cut
out of the records that match, in order; the hits are those of its items, one
by one, and none is missed when they are put beside the sorted records. -/
theorem search_showsPage [Calendar.Reader] (h : search library request = .ok page) :
    ∃ ordered, ShowsPage library request ordered page := by
  obtain ⟨plan, found, hplan, hfound, rfl⟩ := search_eq_ok_iff.1 h
  obtain ⟨criterion, direction, hcriterion, hdirection, ⟨hlimit, hoffset⟩, rfl⟩ :=
    plan_eq_ok_iff.1 hplan
  have harranges := arranges_of_arrangement hfound
  have haligned := harranges.aligned
  obtain ⟨query, sort, order, limit, offset⟩ := request
  lift limit to Nat using hlimit
  lift offset to Nat using hoffset
  have hhits : (SearchPage.of found limit offset).hits =
      (Page.of found.hits limit offset).items := haligned.hits_of
  have hitems : (SearchPage.of found limit offset).items =
      (Page.of found.entries limit offset).items := rfl
  refine ⟨found.entries, ⟨criterion, direction, hcriterion, hdirection, harranges.ordered⟩,
    ?total, ?items, ?blank, ?entries, ?hit, harranges.exists_hitAt?⟩
  case total => exact congrArg Int.ofNat harranges.perm.length_eq
  case items =>
    rw [hitems, Page.items_of]
    rcases Nat.eq_zero_or_pos limit with rfl | hpos
    · simp
    · simp [hpos, hpos.ne']
  case blank =>
    intro hblank
    rw [hhits, haligned.blank hblank, Page.items_of]
    simp
  case entries =>
    intro hne
    rw [hhits, hitems, ← haligned.entries_eq hne, Page.map_items]
  case hit =>
    intro h hmem
    rw [hhits] at hmem
    exact haligned.hit h (Page.mem_of_mem_items hmem)

/-- The records at an address, one to a page, the greater title first. -/
def oneByOne (offset : Int) : Request :=
  { query := "url:u:v", sort := "title", order := "desc", limit := 1, offset }

/-- Of two level titles, every page shows the second record before the first. -/
theorem exists_search_oneByOne [Calendar.Reader] (offset : Nat) :
    ∃ found, search Order.levelTitles (oneByOne offset) = .ok (SearchPage.of found 1 offset) ∧
      found.entries = (entries Order.levelTitles).reverse := by
  have htokens : tokenize "url:u:v" = [⟨"url:u:v", "u:v", some .url, false⟩] := by decide +kernel
  have hne : ¬ isBlankText "url:u:v" := by decide +kernel
  have hhits : ∃ hs, hits (tokenize "url:u:v") (entries Order.levelTitles) = .ok hs ∧
      hs.map (·.entry) = entries Order.levelTitles := by
    rw [htokens]
    exact ⟨_, rfl, rfl⟩
  obtain ⟨hs, hhits, hentries⟩ := hhits
  have hordered : Order.sortByField (·.record) .title .descending (hs.map (·.entry)) =
      .ok (entries Order.levelTitles).reverse := by
    rw [hentries]
    exact Order.sortByField_levelTitles rfl
  have hplan : (oneByOne offset).plan =
      .ok ⟨"url:u:v", .field .title, .descending, 1, offset⟩ :=
    plan_eq_ok_iff.2 ⟨_, _, rfl, rfl, ⟨Int.one_nonneg, Int.natCast_nonneg offset⟩, rfl⟩
  have harranges :
      Arranges Order.levelTitles ⟨"url:u:v", .field .title, .descending, 1, offset⟩
        ⟨(entries Order.levelTitles).reverse, _⟩ :=
    .realigned hne rfl hhits hordered
  exact ⟨_, search_eq_ok_iff.2 ⟨_, _, hplan, harranges.arrangement, rfl⟩, rfl⟩

theorem search_showsPage_oneByOne :
    letI := Calendar.Reader.onDay ⟨2024, 2, 29⟩
    ∃ page, search Order.levelTitles (oneByOne 1) = .ok page ∧ page.items.map (·.position) = [0] ∧
      ∃ ordered, ShowsPage Order.levelTitles (oneByOne 1) ordered page := by
  let := Calendar.Reader.onDay ⟨2024, 2, 29⟩
  obtain ⟨found, hsearch, hentries⟩ := exists_search_oneByOne 1
  refine ⟨_, hsearch, ?_, search_showsPage hsearch⟩
  rw [SearchPage.of, hentries]
  rfl

end Reference

end Bibliography
