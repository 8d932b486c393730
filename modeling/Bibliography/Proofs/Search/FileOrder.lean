import Mathlib.Data.List.Nodup
import Bibliography.Proofs.Match.Table
import Bibliography.Proofs.Order.Unique
import Bibliography.Proofs.Search.Reference
/-!
# The order of the file

A library is read from a file, and its records come in some order. Where their
identifiers differ, a search by a field does not show it. What a query finds in a
record does not depend on its position (`told_hitOf?`), and neither does what is
found (`map_record_matched`) nor how that is sorted. Each hit is told by its record,
so hits go with the records wherever these go (`Aligned.map_told`). Nor does a search
show when it was made, where the timestamps are read alike (`search_congr`).
-/

namespace Bibliography

open Match (Hit hits hit? hitOf?)
open Query (tokenize)

/-- What a hit tells, wherever its record stands in the library: the record, what
each token found in it, the strength and the score. -/
def Match.Hit.told (h : Hit) : Record × List Match.TokenMatch × Match.Strength × Nat :=
  (h.entry.record, h.tokens, h.strength, h.score)

/-- **Records that can be told apart**: each has an identifier that is a text, and
no two have the same. -/
structure Identified (library : List Record) : Prop where
  isText : ∀ r ∈ library, ∃ s, r.str? "id" = some s
  nodup : (library.map (·.str? "id")).Nodup

/-- **Pages that show the same**, wherever the records stand in their libraries. -/
structure SearchPage.ShowsSame (page page' : SearchPage) : Prop where
  items_eq : page'.items.map (·.record) = page.items.map (·.record)
  total_eq : page'.total = page.total
  nextOffset_eq : page'.nextOffset = page.nextOffset
  hits_eq : page'.hits.map (·.told) = page.hits.map (·.told)

/-! ## Records and positions -/

section Positions

variable {library : List Record} {query : String} {tokens : List Query.Token} {e e' : Entry}

theorem map_record_entries : (entries library).map (·.record) = library := by
  rw [entries, List.map_map]
  exact List.zipIdx_map_fst 0 library

/-- A record is matched in the same way at another position. -/
theorem hit?_of_record_eq (h : e.record = e'.record) :
    hit? tokens e' = (hit? tokens e).map (·.map fun hit => ⟨e', hit.tokens⟩) := by
  unfold hit?
  split
  · rfl
  · rw [h]
    cases Match.ofTokens e'.record tokens with
    | error => rfl
    | ok found => cases found <;> rfl

/-- What the hit of a record tells, if it is one. -/
def told? (tokens : List Query.Token) (r : Record) :
    Option (Record × List Match.TokenMatch × Match.Strength × Nat) :=
  (hitOf? tokens ⟨0, r⟩).map (·.told)

/-- **What a hit tells does not depend on the position of its record.** -/
theorem told_hitOf? : (hitOf? tokens e).map (·.told) = told? tokens e.record := by
  have hmoved : hit? tokens e =
      (hit? tokens ⟨0, e.record⟩).map (·.map fun hit => ⟨e, hit.tokens⟩) := hit?_of_record_eq rfl
  rw [told?, hitOf?, hitOf?, hmoved]
  cases hhit : hit? tokens ⟨0, e.record⟩ with
  | error => rfl
  | ok found =>
    cases found with
    | none => rfl
    | some hit =>
      obtain ⟨entry, found⟩ := hit
      obtain rfl : entry = ⟨0, e.record⟩ := Match.entry_of_hit? hhit
      rfl

theorem told?_of_hit? {h : Hit} (hhit : hit? tokens h.entry = .ok (some h)) :
    told? tokens h.entry.record = some h.told := by
  rw [← told_hitOf?, Match.hitOf?_eq_some_iff.2 hhit]
  rfl

/-- What a query finds is seen from the records alone. -/
theorem map_record_matched :
    (matched library query).map (·.record) =
      library.filter fun r => isBlankText query || (told? (tokenize query) r).isSome := by
  have hmatched : isMatched query =
      (fun r => isBlankText query || (told? (tokenize query) r).isSome) ∘ (·.record) := by
    funext e
    rw [isMatched, Function.comp_apply, ← told_hitOf?, Option.isSome_map]
  rw [matched, hmatched, ← List.filter_map, map_record_entries]

/-- **Hits go with their records**, wherever these stand. -/
theorem Aligned.map_told {found : Arrangement} (h : Aligned query found) :
    found.hits.map (·.told) =
      if isBlankText query then []
      else (found.entries.map (·.record)).filterMap (told? (tokenize query)) := by
  split
  · next hblank => rw [h.blank hblank, List.map_nil]
  · next hblank =>
    rw [← h.entries_eq hblank, List.map_map, List.filterMap_map]
    symm
    rw [← List.filterMap_eq_map]
    refine List.filterMap_congr fun hit hmem => ?_
    exact told?_of_hit? (h.hit hit hmem)

end Positions

/-! ## What can be found -/

section Finding

variable {library library' : List Record} {plan : Plan} {f : Order.SortField}

/-- **When a plan that sorts by a field finds something**: each record can be
judged by the query, unless that is blank, and what matches can be sorted. -/
theorem exists_arrangement_iff [Calendar.Reader] (hcriterion : plan.criterion = .field f) :
    (∃ found, plan.arrangement library = .ok found) ↔
      (¬ isBlankText plan.query →
        ∀ e ∈ entries library, ∃ found, hit? (tokenize plan.query) e = .ok found) ∧
      Order.Sortable (·.record) f (matched library plan.query) := by
  constructor
  · rintro ⟨found, hfound⟩
    have harranges := arranges_of_arrangement hfound
    have hordered := harranges.ordered
    rw [hcriterion] at hordered
    refine ⟨fun hne => ?_, ?_⟩
    · obtain ⟨hs, hhits, -⟩ := harranges.exists_hitAt? hne
      exact (Match.hits_eq_ok_iff.1 hhits).1
    · cases hordered with
      | field hsorted => exact Order.exists_sortByField_iff.1 ⟨_, hsorted⟩
  · rintro ⟨hjudged, hsortable⟩
    have hsorted : ∃ ordered, Order.sortByField (·.record) f plan.direction
        (matched library plan.query) = .ok ordered := Order.exists_sortByField_iff.2 hsortable
    obtain ⟨ordered, hordered⟩ := hsorted
    by_cases hblank : isBlankText plan.query
    · rw [matched_blank hblank] at hordered
      exact ⟨_, (Arranges.sorted hblank hcriterion hordered).arrangement⟩
    · have hhits := Match.hits_eq_ok_iff.2 ⟨hjudged hblank, rfl⟩
      rw [matched_hits hblank hhits] at hordered
      exact ⟨_, (Arranges.realigned hblank hcriterion hhits hordered).arrangement⟩

variable {found : Arrangement}

theorem Identified.nodup_idText (h : Identified library) : (library.map (·.idText)).Nodup := by
  have htexts : library.map (·.str? "id") = (library.map (·.idText)).map some := by
    rw [List.map_map]
    refine List.map_congr_left fun r hr => ?_
    obtain ⟨s, hs⟩ := h.isText r hr
    have hid : r.idText = s := by
      rw [Record.idText, Record.str?_eq_some_iff.1 hs]
      rfl
    rw [hs, Function.comp_apply, hid]
  have hnodup := h.nodup
  rw [htexts] at hnodup
  exact hnodup.of_map

/-- **Plans that sort by a field find the same records in the same order**, in
whatever order these stand in the library. -/
theorem exists_arrangement_of_perm [Calendar.Reader] (hids : Identified library)
    (hperm : library'.Perm library)
    (hcriterion : plan.criterion = .field f) (h : plan.arrangement library = .ok found) :
    ∃ found', plan.arrangement library' = .ok found' ∧
      found'.entries.map (·.record) = found.entries.map (·.record) := by
  obtain ⟨hjudged, hsortable⟩ := (exists_arrangement_iff hcriterion).1 ⟨found, h⟩
  have hmatched : ((matched library' plan.query).map (·.record)).Perm
      ((matched library plan.query).map (·.record)) := by
    rw [map_record_matched, map_record_matched]
    exact hperm.filter _
  have hfound' : ∃ found', plan.arrangement library' = .ok found' := by
    refine (exists_arrangement_iff hcriterion).2 ⟨fun hne e he => ?_, hsortable.ofRecords ?_⟩
    · -- the record stands at another position in the library, and can be judged there
      have hmem : e.record ∈ (entries library).map (·.record) := by
        rw [map_record_entries]
        exact hperm.mem_iff.1 (List.mem_iff_getElem?.2 ⟨_, mem_entries_iff.1 he⟩)
      obtain ⟨e', he', hrecord⟩ := List.mem_map.1 hmem
      obtain ⟨o, ho⟩ := hjudged hne e' he'
      exact ⟨_, by rw [hit?_of_record_eq hrecord, ho]; rfl⟩
    · exact fun e he => List.mem_map.1 (hmatched.mem_iff.1 (List.mem_map_of_mem he))
  obtain ⟨found', hfound'⟩ := hfound'
  refine ⟨found', hfound', ?_⟩
  have hordered := (arranges_of_arrangement h).ordered
  have hordered' := (arranges_of_arrangement hfound').ordered
  rw [hcriterion] at hordered hordered'
  have hnodup : ((matched library plan.query).map fun e => e.record.idText).Nodup := by
    have hsub := List.filter_sublist (l := library)
      (p := fun r => isBlankText plan.query || (told? (tokenize plan.query) r).isSome)
    rw [← map_record_matched] at hsub
    simpa [Function.comp_def] using (hsub.map (·.idText)).nodup hids.nodup_idText
  cases hordered with
  | field hsorted =>
    cases hordered' with
    | field hsorted' => exact Order.map_sortByField_eq hmatched hnodup hsorted hsorted'

end Finding

/-! ## Two readers -/

section Readers

variable {R R' : Calendar.Reader} {library : List Record} {query : String} {found : Findings}
variable {plan : Plan} {request : Request}

/-- What is found are records of the library. -/
theorem mem_of_ofQuery (h : Findings.ofQuery library query = .ok found) {e : Entry}
    (he : e ∈ found.entries) : e ∈ entries library := by
  by_cases hblank : isBlankText query
  · rw [ofQuery_blank hblank] at h
    cases h
    exact he
  · obtain ⟨hs, hhits, rfl⟩ := (ofQuery_eq_ok_iff hblank).1 h
    obtain ⟨hit, hmem, rfl⟩ := List.mem_map.1 he
    exact (Match.hit?_of_mem hhits hmem).1

theorem arrangement_congr (h : ∀ r ∈ library, Record.StampedAlike R R' r) :
    @Plan.arrangement R plan library = @Plan.arrangement R' plan library := by
  unfold Plan.arrangement
  cases hfound : Findings.ofQuery library plan.query with
  | error => rfl
  | ok found =>
    have hstamped : ∀ e ∈ found.entries, Record.StampedAlike R R' e.record := fun e he =>
      h e.record (List.mem_iff_getElem?.2 ⟨_, mem_entries_iff.1 (mem_of_ofQuery hfound he)⟩)
    cases hcriterion : plan.criterion with
    | relevance => cases found <;> rfl
    | field f =>
      have hsorted :
          @Order.sortByField R Entry (·.record) f plan.direction found.entries =
            @Order.sortByField R' Entry (·.record) f plan.direction found.entries :=
        Order.sortByField_congr (fun e he => Order.keyOf_congr (hstamped e he))
          fun e he => Order.keyOf_congr (hstamped e he)
      simp only [mapError_ok, bind, Except.bind, Findings.arrange, hsorted]

/-- **A search is the same to readers that read the timestamps alike.** -/
theorem search_congr (h : ∀ r ∈ library, Record.StampedAlike R R' r) :
    @search R library request = @search R' library request := by
  unfold search
  simp only [arrangement_congr h]

end Readers

/-! ## The pages -/

section Pages

variable {library library' : List Record} {request : Request} {page : SearchPage}
variable {query : String} {found found' : Arrangement} {limit offset : Nat}

/-- Where the same records stand in the same order, the pages show the same. -/
theorem Aligned.showsSame (h : Aligned query found) (h' : Aligned query found')
    (hrecords : found'.entries.map (·.record) = found.entries.map (·.record)) :
    (SearchPage.of found limit offset).ShowsSame (SearchPage.of found' limit offset) where
  items_eq := by
    have hitems (a : Arrangement) :
        (SearchPage.of a limit offset).items = (Page.of a.entries limit offset).items := rfl
    rw [hitems, hitems, Page.map_items, Page.map_items, hrecords]
  total_eq := by
    have hlength := congrArg List.length hrecords
    rw [List.length_map, List.length_map] at hlength
    exact congrArg Int.ofNat hlength
  nextOffset_eq := by
    have hnext (a : Arrangement) :
        (SearchPage.of a limit offset).nextOffset = (Page.of a.entries limit offset).nextOffset := rfl
    rw [hnext, hnext, ← Page.nextOffset_map (·.record), hrecords, Page.nextOffset_map]
  hits_eq := by
    rw [h.hits_of, h'.hits_of, Page.map_items, Page.map_items, h.map_told, h'.map_told, hrecords]

/-- **A listing does not depend on the order of the file.** Let the records of a
library have identifiers that differ. A search that is not by relevance and returns
a page returns one for the same records in any other order, and both show the same.
It does so whenever it is made, so long as the timestamps of the records are read as
for the first search. -/
theorem exists_search_of_perm [R : Calendar.Reader] (hids : Identified library)
    (hperm : library'.Perm library) (hsort : Order.Criterion.ofName request.sort ≠ .ok .relevance)
    (h : search library request = .ok page) :
    ∃ page', search library' request = .ok page' ∧ page.ShowsSame page' ∧
      ∀ R' : Calendar.Reader, (∀ r ∈ library', Record.StampedAlike R R' r) →
        @search R' library' request = .ok page' := by
  obtain ⟨plan, found, hplan, hfound, rfl⟩ := search_eq_ok_iff.1 h
  obtain ⟨criterion, direction, hcriterion, -, ⟨hlimit, hoffset⟩, rfl⟩ := plan_eq_ok_iff.1 hplan
  cases criterion with
  | relevance => exact absurd hcriterion hsort
  | field f =>
    obtain ⟨found', hfound', hrecords⟩ := exists_arrangement_of_perm hids hperm rfl hfound
    have hsearch' := search_eq_ok_iff.2 ⟨_, found', hplan, hfound', rfl⟩
    refine ⟨_, hsearch', ?_, fun R' hstamps => (search_congr hstamps).symm.trans hsearch'⟩
    obtain ⟨query, sort, order, limit, offset⟩ := request
    lift limit to Nat using hlimit
    lift offset to Nat using hoffset
    exact (arranges_of_arrangement hfound).aligned.showsSame
      (arranges_of_arrangement hfound').aligned hrecords

/-- Of a library without timestamps, today and on another day. -/
theorem exists_search_of_perm_levelTitles :
    letI leapDay := Calendar.Reader.onDay ⟨2024, 2, 29⟩
    Identified Order.levelTitles ∧ Order.levelTitles.reverse.Perm Order.levelTitles ∧
      Order.Criterion.ofName (oneByOne 0).sort ≠ .ok .relevance ∧
      ∃ page, search Order.levelTitles (oneByOne 0) = .ok page ∧
        page.items.map (·.position) = [1] ∧
        ∃ page', search Order.levelTitles.reverse (oneByOne 0) = .ok page' ∧
          page.ShowsSame page' ∧
          (∀ r ∈ Order.levelTitles.reverse,
            Record.StampedAlike leapDay (.onDay ⟨2025, 1, 1⟩) r) ∧
          @search (.onDay ⟨2025, 1, 1⟩) Order.levelTitles.reverse (oneByOne 0) = .ok page' := by
  let leapDay := Calendar.Reader.onDay ⟨2024, 2, 29⟩
  have hids : Identified Order.levelTitles :=
    ⟨List.forall_mem_cons.2 ⟨⟨"b", rfl⟩, List.forall_mem_singleton.2 ⟨"a", rfl⟩⟩, by decide⟩
  have hstamps : ∀ r ∈ Order.levelTitles.reverse,
      Record.StampedAlike leapDay (.onDay ⟨2025, 1, 1⟩) r := by
    refine List.forall_mem_cons.2 ⟨?_, List.forall_mem_singleton.2 ?_⟩ <;>
      rintro s (hs | hs) <;> cases hs
  obtain ⟨found, hsearch, hentries⟩ := exists_search_oneByOne 0
  have hsort : Order.Criterion.ofName (oneByOne 0).sort ≠ .ok .relevance := by decide
  obtain ⟨page', hsearch', hsame, hlater⟩ :=
    exists_search_of_perm hids (List.reverse_perm _) hsort hsearch
  refine ⟨hids, List.reverse_perm _, hsort, _, hsearch, ?_, page', hsearch', hsame, hstamps,
    hlater _ hstamps⟩
  rw [SearchPage.of, hentries]
  rfl

end Pages

end Bibliography
