import Bibliography.Proofs.Order.Relevance
import Bibliography.Proofs.Search.Legibility
import Bibliography.Proofs.Search.Reference
import Bibliography.Proofs.Search.TokenOrder
import Bibliography.View.Basic
import Mathlib.Data.List.Forall2
/-!
# The views of a page

The views of a page come from its hits, or else from its items. Both are views of the same
records, one by one (`map_unmatched_ofPage`), and what they say of matches is `Details`:
the fields that each token was found in, and all of these without repetitions, which are
left out in one pass over the matches of all tokens (`Match.Hit.foldl_distinct`), or in
two, by token and then altogether (`eraseDups_flatMap`).
-/

namespace Bibliography

section Repetitions

variable {α : Type} [BEq α] [LawfulBEq α] {l : List α}

theorem nodup_eraseDups (l : List α) : l.eraseDups.Nodup := by
  match l with
  | [] => exact List.nodup_nil
  | x :: rest =>
    rw [List.eraseDups_cons, List.nodup_cons]
    exact ⟨by simp, nodup_eraseDups _⟩
termination_by l.length
decreasing_by exact Nat.lt_succ_of_le (List.length_filter_le _ _)

theorem eraseDups_filter (p : α → Bool) (l : List α) :
    (l.filter p).eraseDups = l.eraseDups.filter p := by
  match l with
  | [] => rfl
  | x :: rest =>
    have ih := eraseDups_filter p (rest.filter fun y => !y == x)
    by_cases hx : p x
    · rw [List.filter_cons_of_pos hx, List.eraseDups_cons, List.eraseDups_cons,
        List.filter_cons_of_pos hx, ← ih, List.filter_filter, List.filter_filter]
      simp only [Bool.and_comm]
    · have hall : ∀ y ∈ rest, (p y && !y == x) = p y := by
        intro y _
        by_cases hy : y = x
        · simp [hy, hx]
        · simp [hy]
      rw [List.filter_cons_of_neg hx, List.eraseDups_cons, List.filter_cons_of_neg hx, ← ih,
        List.filter_filter, List.filter_congr hall]
termination_by l.length
decreasing_by exact Nat.lt_succ_of_le (List.length_filter_le _ _)

/-- A list without repetitions has none to lose. -/
theorem eraseDups_of_nodup (h : l.Nodup) : l.eraseDups = l := by
  induction l with
  | nil => rfl
  | cons x rest ih =>
    obtain ⟨hx, hrest⟩ := List.nodup_cons.1 h
    have hkept : (rest.filter fun y => !y == x) = rest :=
      List.filter_eq_self.2 fun y hy => by
        have hne : y ≠ x := fun hyx => hx (hyx ▸ hy)
        simpa using hne
    rw [List.eraseDups_cons, hkept, ih hrest]

/-- **Repetitions may be removed from the parts of a list first.** -/
theorem eraseDups_flatMap {β : Type} (f : β → List α) (bs : List β) :
    (bs.flatMap fun b => (f b).eraseDups).eraseDups = (bs.flatMap f).eraseDups := by
  induction bs with
  | nil => rfl
  | cons b bs ih =>
    have hsame : ∀ rest : List α, rest.removeAll (f b).eraseDups = rest.removeAll (f b) :=
      fun rest => List.filter_congr fun x _ => by simp
    rw [List.flatMap_cons, List.flatMap_cons, List.eraseDups_append, List.eraseDups_append,
      eraseDups_of_nodup (nodup_eraseDups _), hsame]
    simp only [List.removeAll, eraseDups_filter, ih]

end Repetitions

namespace Match.Hit

theorem foldl_distinct (names seen : List String) :
    names.foldl (fun seen n => if seen.contains n then seen else seen ++ [n]) seen =
      seen ++ (names.removeAll seen).eraseDups := by
  induction names generalizing seen with
  | nil => simp
  | cons n rest ih =>
    rw [List.foldl_cons]
    by_cases hn : seen.contains n = true
    · rw [if_pos hn, ih, List.cons_removeAll, if_neg (by simpa using hn)]
    · have hrest : rest.removeAll (seen ++ [n]) = (rest.removeAll seen).filter fun m => !m == n := by
        rw [List.removeAll, List.removeAll, List.filter_filter]
        exact List.filter_congr fun m _ => by by_cases hm : m = n <;> simp [hm]
      rw [if_neg hn, ih, List.cons_removeAll, if_pos (by simpa using hn), List.eraseDups_cons, hrest,
        List.append_assoc, List.singleton_append]

/-- The names that occur are those that are left without repetitions. -/
theorem distinct_eq (names : List String) : distinct names = names.eraseDups := by
  rw [distinct, foldl_distinct]
  simp [List.removeAll]

end Match.Hit

namespace View

open Match (Hit hit?)
open Query (tokenize)

/-- The view without what it says of matches. -/
def unmatched (v : View) : View :=
  { v with matchedFields := [], tokenFields := [] }

/-- **How a view says what a query matched** in a record: for each token there is its
source, with the fields that it was found in, and then there are all these fields. No
field is named twice by one token, nor in the end. -/
structure Details (tokens : List Query.Token) (e : Entry) (v : View) : Prop where
  byToken : List.Forall₂ (fun token part => part.1 = token.raw ∧
    ∃ found, Match.ofToken token e.record = .ok found ∧
      part.2 = (found.map (·.field)).eraseDups ∧ part.2 ≠ [] ∧ part.2.Nodup) tokens v.tokenFields
  inAll : v.matchedFields = (v.tokenFields.flatMap (·.2)).eraseDups

section Hits

variable {h : Hit} {v : View} {tokens : List Query.Token} {e : Entry}

/-- Of what a view shows only the fields that matched depend on the query. -/
theorem map_unmatched_ofRecord (r : Record) (fields : List String) :
    (ofRecord r fields).map unmatched = ofRecord r [] := by
  unfold ofRecord
  cases r.year <;> rfl

theorem map_unmatched_ofHit : (ofHit h).map unmatched = ofRecord h.entry.record [] := by
  rw [← map_unmatched_ofRecord h.entry.record h.fields, ofHit]
  cases ofRecord h.entry.record h.fields <;> rfl

theorem details_ofHit (hhit : hit? tokens e = .ok (some h)) (hv : ofHit h = .ok v) :
    Details tokens e v := by
  obtain ⟨-, -, htokens, hfound⟩ := Match.hit?_eq_some_iff.1 hhit
  obtain ⟨v', hv', rfl⟩ := map_eq_ok_iff.1 hv
  obtain ⟨y, -, rfl⟩ := map_eq_ok_iff.1 hv'
  refine ⟨?_, ?_⟩
  · dsimp only
    rw [← htokens, List.forall₂_map_left_iff, List.forall₂_map_right_iff, List.forall₂_same]
    intro m hm
    obtain ⟨hof, hne⟩ := hfound m hm
    rw [Hit.distinct_eq]
    refine ⟨rfl, m.found, hof, rfl, ?_, nodup_eraseDups _⟩
    cases hfields : m.found with
    | nil => exact absurd hfields hne
    | cons first others => simp [List.eraseDups_cons]
  · dsimp only
    rw [Hit.fields, Hit.distinct_eq, List.flatMap_map]
    simp only [Hit.distinct_eq]
    exact (eraseDups_flatMap _ _).symm

end Hits

section Pages

variable {library : List Record} {request : Request} {page : SearchPage}

/-- But for the matches, the views of a page are those of its items one by one. -/
theorem map_unmatched_ofPage [Calendar.Reader] (h : search library request = .ok page) :
    (ofPage page).map (·.map unmatched) = page.items.mapM fun e => ofRecord e.record [] := by
  obtain ⟨ordered, hshows⟩ := search_showsPage h
  unfold ofPage
  split
  · rw [map_mapM]
    simp only [map_unmatched_ofRecord]
  · next hhits =>
    have hne : ¬ isBlankText request.query := fun hblank =>
      hhits (by simp [hshows.hits_blank hblank])
    rw [map_mapM, ← hshows.entries_hits hne, List.mapM_map]
    simp only [map_unmatched_ofHit]
    rfl

theorem length_ofPage [Calendar.Reader] (h : search library request = .ok page) {views : List View}
    (hviews : ofPage page = .ok views) : views.length = page.items.length := by
  have hitems := map_unmatched_ofPage h
  rw [hviews] at hitems
  have hlength := congrArg List.length (mapM_eq_ok_iff.1 hitems.symm)
  simpa using hlength.symm

/-- So there are views unless the year of an item cannot be told. -/
theorem exists_ofPage_iff [Calendar.Reader] (h : search library request = .ok page) :
    (∃ views, ofPage page = .ok views) ↔ ∀ e ∈ page.items, ∃ y, e.record.year = .ok y := by
  have hitems : (∃ views, ofPage page = .ok views) ↔
      ∃ vs, (page.items.mapM fun e => ofRecord e.record []) = .ok vs := by
    rw [← map_unmatched_ofPage h]
    simp only [map_eq_ok_iff]
    exact ⟨fun ⟨views, hviews⟩ => ⟨_, views, hviews, rfl⟩, fun ⟨_, views, hviews, _⟩ => ⟨views, hviews⟩⟩
  rw [hitems, exists_mapM_iff]
  refine forall₂_congr fun e _ => ?_
  simp only [ofRecord, map_eq_ok_iff]
  exact ⟨fun ⟨_, y, hy, _⟩ => ⟨y, hy⟩, fun ⟨y, hy⟩ => ⟨_, y, hy, rfl⟩⟩

/-- **The views of a page show its records and what matched in them.** They are the views
of its items, one by one and in their order, but for what they say of matches; there are
such views, unless an item has none of its own because its year cannot be told. A blank
query matches nothing. Otherwise each view says of each token of the query in turn where
it was found, and sums that up. -/
theorem ofPage_of_search [Calendar.Reader] (h : search library request = .ok page) :
    (ofPage page).map (·.map unmatched) = (page.items.mapM fun e => ofRecord e.record []) ∧
      ((∃ views, ofPage page = .ok views) ↔ ∀ e ∈ page.items, ∃ y, e.record.year = .ok y) ∧
      ∀ views, ofPage page = .ok views →
        (isBlankText request.query → ∀ v ∈ views, v.tokenFields = [] ∧ v.matchedFields = []) ∧
        (¬ isBlankText request.query →
          List.Forall₂ (Details (tokenize request.query)) page.items views) := by
  obtain ⟨ordered, hshows⟩ := search_showsPage h
  refine ⟨map_unmatched_ofPage h, exists_ofPage_iff h, fun views hviews =>
    ⟨fun hblank v hv => ?_, fun hne => ?_⟩⟩
  · rw [ofPage, hshows.hits_blank hblank, List.isEmpty_nil, if_pos rfl, mapM_eq_ok_iff] at hviews
    have hmem : Except.ok v ∈ page.items.map fun e => ofRecord e.record [] :=
      hviews ▸ List.mem_map_of_mem hv
    obtain ⟨e, -, he⟩ := List.mem_map.1 hmem
    obtain ⟨y, -, rfl⟩ := map_eq_ok_iff.1 he
    exact ⟨rfl, rfl⟩
  · have hhits : page.hits.mapM ofHit = .ok views := by
      unfold ofPage at hviews
      split at hviews
      · next hempty =>
        -- without hits there are no items, and so no views
        rw [List.isEmpty_iff] at hempty
        rw [← hshows.entries_hits hne, hempty] at hviews
        rwa [hempty]
      · exact hviews
    rw [mapM_eq_ok_iff, ← List.forall₂_eq_eq_eq, List.forall₂_map_left_iff,
      List.forall₂_map_right_iff] at hhits
    rw [← hshows.entries_hits hne, List.forall₂_map_left_iff]
    exact ((List.forall₂_and_left _ _).2 ⟨hshows.hit_eq, hhits⟩).imp
      fun hit v ⟨hhit, hv⟩ => details_ofHit hhit hv

/-- A record with two words in its title. -/
def twoWords : Record :=
  ⟨[("id", .str "r"), ("title", .str "a b")]⟩

/-- Its view, where one of the words was looked for anywhere and one in the title. -/
def ofTwoWords : View :=
  { id := "r", title := "a b", authors := [], year := none, containerTitle := none, doi := none,
    url := none, uuid := none, matchedFields := ["title"],
    tokenFields := [("a", ["title"]), ("title:b", ["title"])] }

theorem ofPage_of_search_twoWords :
    letI := Calendar.Reader.onDay ⟨2024, 2, 29⟩
    ∃ page, search [twoWords] { query := "a title:b", sort := "relevance" } = .ok page ∧
      ofPage page = .ok [ofTwoWords] ∧
      List.Forall₂ (Details (tokenize "a title:b")) page.items [ofTwoWords] := by
  let := Calendar.Reader.onDay ⟨2024, 2, 29⟩
  have htokens : tokenize "a title:b" =
      [⟨"a", "a", none, false⟩, ⟨"title:b", "b", some .title, false⟩] := by decide +kernel
  have hne : ¬ isBlankText "a title:b" := by decide +kernel
  let hit : Hit := ⟨⟨0, twoWords⟩, [⟨⟨"a", "a", none, false⟩, [⟨"title", .inPart, "a b"⟩]⟩,
    ⟨⟨"title:b", "b", some .title, false⟩, [⟨"title", .inPart, "a b"⟩]⟩]⟩
  have hhit : hit? (tokenize "a title:b") ⟨0, twoWords⟩ = .ok (some hit) := by
    rw [htokens, Match.hit?_eq_some_iff]
    refine ⟨by simp, rfl, rfl, ?_⟩
    decide +kernel
  have hhits : Match.hits (tokenize "a title:b") (entries [twoWords]) = .ok [hit] :=
    bind_eq_ok_iff.2 ⟨[some hit], mapM_eq_ok_iff.2 (congrArg (fun o => [o]) hhit), rfl⟩
  have hranked : Findings.rank .descending [hit] = .ok [hit] := by
    have hyear : ∀ h ∈ [hit], ∃ y, h.entry.record.year = .ok y :=
      List.forall_mem_singleton.2 ⟨Record.missingYear, rfl⟩
    obtain ⟨ranked, hranked⟩ := Order.exists_sortByRelevance_eq_ok hyear
    have hrank : Findings.rank .descending [hit] = .ok ranked := rank_eq_ok_iff.2 ⟨_, hranked, rfl⟩
    rwa [List.perm_singleton.1 (rank_perm hrank)] at hrank
  have harranges : Arranges [twoWords] ⟨"a title:b", .relevance, .descending, 0, 0⟩
      ⟨[hit].map (·.entry), [hit]⟩ :=
    .ranked hne rfl hhits hranked
  have hplan : ({ query := "a title:b", sort := "relevance" } : Request).plan =
      .ok ⟨"a title:b", .relevance, .descending, 0, 0⟩ := rfl
  have hsearch := search_eq_ok_iff.2 ⟨_, _, hplan, harranges.arrangement, rfl⟩
  have hviews : ofPage (SearchPage.of ⟨[hit].map (·.entry), [hit]⟩ 0 0) = .ok [ofTwoWords] := rfl
  exact ⟨_, hsearch, hviews, ((ofPage_of_search hsearch).2.2 _ hviews).2 hne⟩

/-- A listing by relevance does not ask for years, and has a page here, but no views. -/
theorem ofPage_raisedYear :
    letI := Calendar.Reader.onDay ⟨2024, 2, 29⟩
    ∃ page, search [Match.raisedYear] { query := "", sort := "relevance" } = .ok page ∧
      page.items.map (·.record) = [Match.raisedYear] ∧
      ofPage page = .error (.notNumeral 10 "²") := by
  let := Calendar.Reader.onDay ⟨2024, 2, 29⟩
  have hsearch : search [Match.raisedYear] { query := "", sort := "relevance" } =
      .ok (SearchPage.of ⟨entries [Match.raisedYear], []⟩ 0 0) := rfl
  exact ⟨_, hsearch, rfl, rfl⟩

end Pages

end View

end Bibliography
