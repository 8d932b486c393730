import Bibliography.Proofs.Search.Reference
/-!
# Going through the pages

A page names the offset of the next one. `Walk` follows these offsets from
page to page, and `exists_walk` says that this comes to an end and has then
shown everything once: what the pages show from an offset on (`ShowsFrom`) is
what was found from there on, page after page.
-/

namespace Bibliography

/-- **Going through the pages** of a library from the one that a request asks
for. -/
inductive Walk [Calendar.Reader] (library : List Record) : Request → List SearchPage → Prop
  /-- The page that names no next offset is the last. -/
  | last {request : Request} {page : SearchPage} :
      search library request = .ok page → page.nextOffset = none → Walk library request [page]
  /-- Otherwise the request goes on from the next offset. -/
  | next {request : Request} {page : SearchPage} {pages : List SearchPage} {offset : Int} :
      search library request = .ok page → page.nextOffset = some offset →
      Walk library { request with offset } pages → Walk library request (page :: pages)

/-- **Pages that show a whole search**, `limit` items at a time. -/
structure Exhausts (limit : Int) (pages : List SearchPage) (whole : SearchPage) : Prop where
  items_eq : pages.flatMap (·.items) = whole.items
  hits_eq : pages.flatMap (·.hits) = whole.hits
  total_eq : ∀ p ∈ pages, p.total = whole.total
  /-- All pages but the last are full. That one shows something, unless
  nothing was found and it is the only one. -/
  sizes : ∃ full last, pages = full ++ [last] ∧
    (∀ p ∈ full, (p.items.length : Int) = limit) ∧
    (1 ≤ last.items.length ∧ (last.items.length : Int) ≤ limit ∨
      full = [] ∧ last.items = [] ∧ whole.total = 0)

/-- **What pages show from an offset on**: all that was found from there on. -/
structure ShowsFrom (found : Arrangement) (limit offset : Nat) (pages : List SearchPage) :
    Prop where
  items_eq : pages.flatMap (·.items) = found.entries.drop offset
  hits_eq : pages.flatMap (·.hits) = found.hits.drop offset
  total_eq : ∀ p ∈ pages, p.total = found.entries.length
  sizes : ∃ full last, pages = full ++ [last] ∧ (∀ p ∈ full, p.items.length = limit) ∧
    last.items.length ≤ limit ∧
    if offset < found.entries.length then 1 ≤ last.items.length else full = []

section Walking

variable {library : List Record} {query : String} {request : Request} {page : SearchPage}
variable {pages pages' : List SearchPage} {found : Arrangement} {limit offset : Nat}

/-- Each page says which one follows, so there is one way to go. -/
theorem Walk.unique [Calendar.Reader] (h : Walk library request pages)
    (h' : Walk library request pages') : pages' = pages := by
  induction h generalizing pages' with
  | last hpage hnone =>
    cases h' with
    | last hpage' _ =>
      cases hpage.symm.trans hpage'
      rfl
    | next hpage' hsome _ =>
      cases hpage.symm.trans hpage'
      cases hnone.symm.trans hsome
  | next hpage hsome _ ih =>
    cases h' with
    | last hpage' hnone =>
      cases hpage.symm.trans hpage'
      cases hnone.symm.trans hsome
    | next hpage' hsome' hrest =>
      cases hpage.symm.trans hpage'
      cases hsome.symm.trans hsome'
      rw [ih hrest]

/-! ## One page and the rest -/

theorem items_page (hlimit : 0 < limit) :
    (SearchPage.of found limit offset).items = (found.entries.drop offset).take limit := by
  have hitems : (SearchPage.of found limit offset).items =
      (Page.of found.entries limit offset).items := rfl
  rw [hitems, Page.items_of, if_neg hlimit.ne']

theorem hits_page (haligned : Aligned query found) (hlimit : 0 < limit) :
    (SearchPage.of found limit offset).hits = (found.hits.drop offset).take limit := by
  rw [haligned.hits_of, Page.items_of, if_neg hlimit.ne']

/-- No page follows the one that shows the end. -/
theorem ShowsFrom.last (haligned : Aligned query found) (hlimit : 0 < limit)
    (hend : found.entries.length ≤ offset + limit) :
    ShowsFrom found limit offset [SearchPage.of found limit offset] := by
  have hshort : (found.entries.drop offset).length ≤ limit := by
    rw [List.length_drop]
    omega
  have hshort' : (found.hits.drop offset).length ≤ limit := by
    have hle := haligned.length_hits_le
    rw [List.length_drop]
    omega
  have hitems : (SearchPage.of found limit offset).items = found.entries.drop offset := by
    rw [items_page hlimit, List.take_of_length_le hshort]
  refine ⟨by simpa using hitems, ?_, by simp [SearchPage.of], [], _, rfl, by simp, ?_, ?_⟩
  · rw [List.flatMap_singleton, hits_page haligned hlimit, List.take_of_length_le hshort']
  · rw [hitems]
    exact hshort
  · split
    · rw [hitems, List.length_drop]
      omega
    · rfl

/-- **One page more.** Where something is left behind a page, the page is full
and goes before the pages that show what is left. -/
theorem ShowsFrom.next (haligned : Aligned query found) (hlimit : 0 < limit)
    (hmore : offset + limit < found.entries.length)
    (h : ShowsFrom found limit (offset + limit) pages) :
    ShowsFrom found limit offset (SearchPage.of found limit offset :: pages) := by
  obtain ⟨full, last, hpages, hfull, hle, hlast⟩ := h.sizes
  rw [if_pos hmore] at hlast
  refine ⟨?_, ?_, ?_, SearchPage.of found limit offset :: full, last, by rw [hpages]; rfl, ?_, hle, ?_⟩
  · rw [List.flatMap_cons, h.items_eq, items_page hlimit, ← List.drop_drop, List.take_append_drop]
  · rw [List.flatMap_cons, h.hits_eq, hits_page haligned hlimit, ← List.drop_drop,
      List.take_append_drop]
  · exact List.forall_mem_cons.2 ⟨rfl, h.total_eq⟩
  · refine List.forall_mem_cons.2 ⟨?_, hfull⟩
    rw [items_page hlimit, List.length_take, List.length_drop]
    omega
  · rw [if_pos (by omega)]
    exact hlast

/-! ## All pages -/

/-- **From every offset the pages come to an end**, and show what was found
from there on. -/
theorem exists_walk_from [Calendar.Reader] (haligned : Aligned query found) (hlimit : 0 < limit)
    (hsearch : ∀ offset : Nat,
      search library { request with offset } = .ok (SearchPage.of found limit offset))
    (offset : Nat) :
    ∃ pages, Walk library { request with offset } pages ∧ ShowsFrom found limit offset pages := by
  have hnext : (SearchPage.of found limit offset).nextOffset =
      if offset + limit < found.entries.length then some ((offset + limit : Nat) : Int)
      else none :=
    Page.nextOffset_of hlimit
  by_cases hmore : offset + limit < found.entries.length
  · rw [if_pos hmore] at hnext
    obtain ⟨pages, hwalk, hshows⟩ := exists_walk_from haligned hlimit hsearch (offset + limit)
    exact ⟨_, .next (hsearch offset) hnext hwalk, hshows.next haligned hlimit hmore⟩
  · rw [if_neg hmore] at hnext
    exact ⟨_, .last (hsearch offset) hnext, .last haligned hlimit (by omega)⟩
-- each page that has a next one leaves less behind it
termination_by found.entries.length - offset

/-- **Going through the pages shows everything once.** Where a search by a
limit returns, going through its pages from the start comes to an end in one
way. The search without a limit returns too, and the pages one after the other
show its items and its hits, in pages of the size asked for. -/
theorem exists_walk [Calendar.Reader] (hlimit : 0 < request.limit)
    (h : search library request = .ok page) :
    ∃ pages whole,
      Walk library { request with offset := 0 } pages ∧
      (∀ pages', Walk library { request with offset := 0 } pages' → pages' = pages) ∧
      search library { request with limit := 0, offset := 0 } = .ok whole ∧
      Exhausts request.limit pages whole := by
  obtain ⟨found, haligned, hsearch⟩ := exists_arrangement h
  obtain ⟨text, sort, order, limit, start⟩ := request
  lift limit to Nat using hlimit.le
  have hpos : 0 < limit := Int.natCast_pos.1 hlimit
  obtain ⟨pages, hwalk, hshows⟩ := exists_walk_from haligned hpos (hsearch limit) 0
  obtain ⟨full, last, hpages, hfull, hle, hlast⟩ := hshows.sizes
  refine ⟨pages, _, hwalk, fun _ => hwalk.unique, hsearch 0 0, ?_, ?_, hshows.total_eq, full, last,
    hpages, ?_, ?_⟩
  · exact hshows.items_eq
  · rw [hshows.hits_eq, haligned.hits_of, Page.items_of, if_pos rfl]
  · exact fun p hp => congrArg Int.ofNat (hfull p hp)
  · split at hlast
    · exact .inl ⟨hlast, Int.ofNat_le.2 hle⟩
    · next hempty =>
      have hnone : found.entries = [] := List.eq_nil_of_length_eq_zero (by omega)
      subst hlast
      have hitems : last.items = [] := by
        have hshown := hshows.items_eq
        rw [hpages, hnone] at hshown
        simpa using hshown
      exact .inr ⟨rfl, hitems, by simp [SearchPage.of, hnone]⟩

theorem exists_walk_oneByOne :
    letI := Calendar.Reader.onDay ⟨2024, 2, 29⟩
    ∃ page, 0 < (oneByOne 0).limit ∧ search Order.levelTitles (oneByOne 0) = .ok page ∧
      page.nextOffset = some 1 ∧
      ∃ pages whole,
        Walk Order.levelTitles { oneByOne 0 with offset := 0 } pages ∧
        (∀ pages', Walk Order.levelTitles { oneByOne 0 with offset := 0 } pages' → pages' = pages) ∧
        search Order.levelTitles { oneByOne 0 with limit := 0, offset := 0 } = .ok whole ∧
        Exhausts (oneByOne 0).limit pages whole := by
  let := Calendar.Reader.onDay ⟨2024, 2, 29⟩
  obtain ⟨found, hsearch, hentries⟩ := exists_search_oneByOne 0
  refine ⟨_, Int.one_pos, hsearch, ?_, exists_walk Int.one_pos hsearch⟩
  rw [SearchPage.of, hentries]
  rfl

end Walking

end Bibliography
