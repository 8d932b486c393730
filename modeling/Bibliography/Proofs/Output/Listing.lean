import Bibliography.Output.Writer
import Bibliography.Proofs.Output.Plain
import Bibliography.Proofs.View.Listing
import Bibliography.Proofs.View.Pages
import Bibliography.Proofs.Search.Reference
/-!
# Pages as they are listed

A listing numbers its entries from the offset of its page on (`Numbered`), says below
them which of all they are (`account`), and has three things to say if there are none
(`Excuses`). What it says is so for every page of a search (`take_of_search`), because the
page counts what was found and names the next page just where something is left
(`Page.nextOffset_of_ne_nil`), without a limit, too.
-/

namespace Bibliography.Output

/-- **What is printed of an entry**, with its number in front of all. -/
def entryText (number : Int) (v : View) (details : String) : String :=
  Number.intText number ++ ". [" ++
    plain (v.id ++ "] " ++ (if v.title.isEmpty then "(untitled)" else v.title)) ++ "\n" ++
    plain details

/-- **Entries of views, numbered one after the other**, with an empty line between. -/
inductive Numbered : Int → List View → String → Prop
  | last {number : Int} {v : View} :
      Numbered number [v] (entryText number v (Listing.lastBody v) ++ "\n")
  | next {number : Int} {v : View} {views : List View} {text : String} :
      Numbered (number + 1) views text →
      Numbered number (v :: views) (entryText number v (Listing.body v) ++ "\n\n" ++ text)

section Entries

variable {number : Int} {v : View} {views : List View} {text : String}

theorem escape_notMem_intText : '\x1b' ∉ (Number.intText number).toList := by
  intro h
  rw [Number.intText, String.toList_ofList] at h
  have hdigit : '\x1b' ∉ Number.decimalDigits number.natAbs := fun hmem =>
    absurd (Number.isDigit_of_mem_decimalDigits hmem) (by decide)
  split at h
  · rcases List.mem_cons.1 h with h | h
    · exact absurd h (by decide)
    · exact hdigit h
  · exact hdigit h

/-- The number of an entry is printed whatever its view holds. -/
theorem plain_entry (details : String) :
    plain (Listing.heading number v) ++ "\n" ++ plain details = entryText number v details := by
  have hescape : '\x1b' ∉ (Number.intText number ++ ". [").toList := by
    simp [escape_notMem_intText]
  rw [Listing.heading, plain_append hescape, entryText]

/-- What is printed of a listing numbers its entries. -/
theorem numbered_plain_text (hne : views ≠ []) :
    Numbered number views (plain (Listing.text views number)) := by
  induction views generalizing number with
  | nil => exact absurd rfl hne
  | cons v rest ih =>
    rcases eq_or_ne rest [] with rfl | hrest
    · rw [Listing.text_singleton, plain_append_lineEnd, plain_append_line, plain_entry]
      exact .last
    · rw [Listing.text_cons hrest, plain_append_gap, plain_append_line, plain_entry]
      exact .next (ih hrest)

theorem Numbered.exists_eq (h : Numbered number views text) :
    ∃ more, text = Number.intText number ++ ". [" ++ more := by
  cases h with
  | last | next =>
    simp only [entryText, String.append_assoc]
    exact ⟨_, rfl⟩

end Entries

/-- **Which of all that was found a page shows** and, where any are left, with which offset
to go on. -/
def account (page : SearchPage) : String :=
  let last := page.offset + page.items.length
  "Showing " ++ Number.intText (page.offset + 1) ++ "-" ++ Number.intText last ++ " of " ++
    Number.intText page.total ++
    (if last < page.total then " (next: --offset " ++ Number.intText last ++ ")" else "")

/-- **What a page that shows something comes to**: its entries, numbered from its offset on,
and below them the account of it. -/
def Lists (page : SearchPage) (printed : String) : Prop :=
  ∃ views entries, View.ofPage page = .ok views ∧ views.length = page.items.length ∧
    Numbered (page.offset + 1) views entries ∧ printed = entries ++ (account page ++ "\n")

/-- **What a page comes to that shows nothing**: why it does not. -/
structure Excuses (library : List Record) (request : Request) (page : SearchPage)
    (printed : String) : Prop where
  beyond_iff : printed = "No results at offset " ++ Number.intText page.offset ++ " of " ++
    Number.intText page.total ++ ".\n" ↔ matched library request.query ≠ []
  nothing_iff : printed = "No references found for: " ++ plain request.query ++ "\n" ↔
    ¬ isBlankText request.query ∧ matched library request.query = []
  vacant_iff : printed = "Library is empty.\n" ↔ isBlankText request.query ∧ library = []
  total_le : matched library request.query ≠ [] → page.total ≤ page.offset

section Pages

variable {library : List Record} {request : Request} {page : SearchPage} {query printed : String}

/-! ## Below the entries -/

theorem line_summary : line (summary page) = summary page ++ "\n" := by
  have hescape : '\x1b' ∉ (summary page).toList := by
    unfold summary
    cases page.nextOffset <;> simp [escape_notMem_intText]
  rw [line, plain_append_lineEnd, plain_eq_self hescape]

/-- A page that shows something is printed as its entries and the summary. -/
theorem listing_eq_ok_iff (hne : page.items ≠ []) :
    listing page query = .ok printed ↔ ∃ views, View.ofPage page = .ok views ∧
      plain (Listing.text views (page.offset + 1)) ++ (summary page ++ "\n") = printed := by
  rw [listing, if_neg (by simpa using hne), bind_eq_ok_iff]
  simp only [line_summary, pure, Except.pure, Except.ok.injEq]

theorem listing_of_nil (hnil : page.items = []) :
    listing page query = .ok (line (emptyNotice page query)) := by
  rw [listing, hnil]
  rfl

/-- The next offset that is named is that of the first item that is left. -/
theorem summary_of_search [Calendar.Reader] (h : search library request = .ok page)
    (hne : page.items ≠ []) :
    summary page = account page := by
  obtain ⟨found, limit, offset, rfl, -⟩ := exists_eq_of_search h
  have hnext : (SearchPage.of found limit offset).nextOffset = _ := Page.nextOffset_of_ne_nil hne
  rw [summary, account, hnext]
  congr 1
  by_cases hleft : offset + (Page.of found.entries limit offset).items.length <
      found.entries.length
  · have hless : (SearchPage.of found limit offset).offset +
        (SearchPage.of found limit offset).items.length <
          (SearchPage.of found limit offset).total := Int.ofNat_lt.2 hleft
    rw [if_pos hleft, if_pos hless]
    rfl
  · have hless : ¬ (SearchPage.of found limit offset).offset +
        (SearchPage.of found limit offset).items.length <
          (SearchPage.of found limit offset).total := fun h => hleft (Int.ofNat_lt.1 h)
    rw [if_neg hleft, if_neg hless]

theorem lists_of_listing [Calendar.Reader] (h : search library request = .ok page)
    (hne : page.items ≠ [])
    (hlisting : listing page query = .ok printed) : Lists page printed := by
  obtain ⟨views, hviews, rfl⟩ := (listing_eq_ok_iff hne).1 hlisting
  have hlength := View.length_ofPage h hviews
  have hsome : views ≠ [] := by
    rintro rfl
    exact hne (List.eq_nil_of_length_eq_zero hlength.symm)
  exact ⟨views, _, hviews, hlength, numbered_plain_text hsome, by rw [summary_of_search h hne]⟩

/-! ## Instead of entries -/

/-- There are three reasons to show nothing, each with words of its own. -/
theorem line_emptyNotice [Calendar.Reader] (h : search library request = .ok page) :
    matched library request.query ≠ [] ∧ line (emptyNotice page request.query) =
        "No results at offset " ++ Number.intText page.offset ++ " of " ++
          Number.intText page.total ++ ".\n" ∨
      matched library request.query = [] ∧ ¬ isBlankText request.query ∧
        line (emptyNotice page request.query) =
          "No references found for: " ++ plain request.query ++ "\n" ∨
      matched library request.query = [] ∧ isBlankText request.query = true ∧
        line (emptyNotice page request.query) = "Library is empty.\n" := by
  obtain ⟨ordered, hshows⟩ := search_showsPage h
  rw [line, plain_append_lineEnd]
  by_cases hmatched : matched library request.query = []
  · have htotal : page.total = 0 := by rw [hshows.total_eq, hmatched]; rfl
    by_cases hblank : isBlankText request.query = true
    · have hnotice : emptyNotice page request.query = "Library is empty." := by
        simp [emptyNotice, htotal, hblank]
      exact .inr (.inr ⟨hmatched, hblank, by rw [hnotice, plain_eq_self (by simp)]; rfl⟩)
    · have hnotice : emptyNotice page request.query =
          "No references found for: " ++ request.query := by
        simp [emptyNotice, htotal, hblank]
      exact .inr (.inl ⟨hmatched, hblank, by rw [hnotice, plain_append (by simp)]⟩)
  · have htotal : page.total ≠ 0 := by
      rw [hshows.total_eq]
      exact Int.natCast_ne_zero.2 fun hzero => hmatched (List.eq_nil_of_length_eq_zero hzero)
    have hnotice : emptyNotice page request.query = "No results at offset " ++
        Number.intText page.offset ++ " of " ++ Number.intText page.total ++ "." := by
      simp [emptyNotice, htotal]
    refine .inl ⟨hmatched, ?_⟩
    rw [hnotice, plain_eq_self (by simp [escape_notMem_intText]), String.append_assoc]
    rfl

/-- No two of these texts are the same. -/
theorem notices_ne (offset total : Int) (query : String) :
    "No results at offset " ++ Number.intText offset ++ " of " ++ Number.intText total ++ ".\n" ≠
        "No references found for: " ++ query ++ "\n" ∧
      "No results at offset " ++ Number.intText offset ++ " of " ++ Number.intText total ++ ".\n" ≠
        "Library is empty.\n" ∧
      "No references found for: " ++ query ++ "\n" ≠ "Library is empty.\n" := by
  simp [← String.toList_inj]

theorem excuses_of_listing [Calendar.Reader] (h : search library request = .ok page)
    (hnil : page.items = [])
    (hlisting : listing page request.query = .ok printed) :
    Excuses library request page printed := by
  obtain ⟨hfar, hfar', hnone⟩ := notices_ne page.offset page.total (plain request.query)
  rw [listing_of_nil hnil] at hlisting
  obtain rfl := Except.ok.inj hlisting
  have hvacant : isBlankText request.query → (matched library request.query = [] ↔ library = []) := by
    intro hblank
    simp [matched_blank hblank, entries]
  have htotal : page.total ≤ page.offset := by
    obtain ⟨found, limit, offset, rfl, -⟩ := exists_eq_of_search h
    exact Int.ofNat_le.2 (Nat.le_of_not_lt fun hlt => Page.items_ne_nil_iff.2 hlt hnil)
  obtain ⟨hmatched, hline⟩ | ⟨hmatched, hblank, hline⟩ | ⟨hmatched, hblank, hline⟩ :=
    line_emptyNotice h
  · rw [hline]
    refine ⟨iff_of_true rfl hmatched, iff_of_false hfar fun hand => hmatched hand.2,
      iff_of_false hfar' fun hand => hmatched ((hvacant hand.1).2 hand.2), fun _ => htotal⟩
  · rw [hline]
    exact ⟨iff_of_false hfar.symm (not_not_intro hmatched), iff_of_true rfl ⟨hblank, hmatched⟩,
      iff_of_false hnone fun hand => hblank hand.1, fun hne => absurd hmatched hne⟩
  · rw [hline]
    exact ⟨iff_of_false hfar'.symm (not_not_intro hmatched),
      iff_of_false hnone.symm fun hand => hand.1 hblank,
      iff_of_true rfl ⟨hblank, (hvacant hblank).1 hmatched⟩, fun hne => absurd hmatched hne⟩

/-! ## The writer of listings -/

theorem take_pretty_eq_ok_iff {baseDir : String} {w : Writer} :
    (Writer.start .pretty baseDir).take page query = .ok (printed, w) ↔
      listing page query = .ok printed ∧ w = Writer.start .pretty baseDir := by
  have htake : (Writer.start .pretty baseDir).take page query =
      (listing page query).map (·, Writer.start .pretty baseDir) := rfl
  rw [htake, map_eq_ok_iff]
  constructor
  · rintro ⟨_, hlisting, heq⟩
    cases heq
    exact ⟨hlisting, rfl⟩
  · rintro ⟨hlisting, rfl⟩
    exact ⟨printed, hlisting, rfl⟩

/-- A page is printed unless the year of an item cannot be told. -/
theorem exists_take_pretty_iff [Calendar.Reader] (h : search library request = .ok page)
    {baseDir : String} :
    (∃ taken, (Writer.start .pretty baseDir).take page query = .ok taken) ↔
      ∀ e ∈ page.items, ∃ y, e.record.year = .ok y := by
  have hlisting : (∃ taken, (Writer.start .pretty baseDir).take page query = .ok taken) ↔
      ∃ printed, listing page query = .ok printed := by
    simp only [Prod.exists, take_pretty_eq_ok_iff]
    exact exists_congr fun printed => exists_and_left.trans (and_iff_left ⟨_, rfl⟩)
  rw [hlisting]
  by_cases hnil : page.items = []
  · rw [listing_of_nil hnil, hnil]
    exact iff_of_true ⟨_, rfl⟩ (List.forall_mem_nil _)
  · rw [← View.exists_ofPage_iff h]
    simp only [listing_eq_ok_iff hnil]
    exact ⟨fun ⟨_, views, hviews, _⟩ => ⟨views, hviews⟩, fun ⟨views, hviews⟩ => ⟨_, views, hviews, rfl⟩⟩

/-- **The next page goes on** from where a page ends, in its numbers, too. -/
theorem exists_next [Calendar.Reader] (h : search library request = .ok page)
    (hne : page.items ≠ [])
    (hleft : page.offset + page.items.length < page.total) :
    ∃ next, search library { request with offset := page.offset + page.items.length } = .ok next ∧
      next.offset = page.offset + page.items.length ∧ next.items ≠ [] := by
  obtain ⟨found, limit, offset, rfl, hsearch⟩ := exists_eq_of_search h
  exact ⟨_, hsearch (offset + (SearchPage.of found limit offset).items.length), rfl,
    Page.items_ne_nil_iff.2 (Int.ofNat_lt.1 hleft)⟩

/-- **The listing of a page tells where it stands.** There is one, unless the year of an
item cannot be told. Its entries have the numbers from the offset on, and the line below
them names the last of these and the count of all that was found; it names a next offset
just where something is left, and the page from that offset on starts with the next
number. A listing without entries says whether anything is found at all, and if not,
whether there was anything to look for and in. -/
theorem take_of_search [Calendar.Reader] (h : search library request = .ok page)
    (baseDir : String) :
    ((∃ taken, (Writer.start .pretty baseDir).take page request.query = .ok taken) ↔
        ∀ e ∈ page.items, ∃ y, e.record.year = .ok y) ∧
      ∀ printed w, (Writer.start .pretty baseDir).take page request.query = .ok (printed, w) →
        page.total = (matched library request.query).length ∧
        (page.items = [] → Excuses library request page printed) ∧
        (page.items ≠ [] → Lists page printed ∧
          (page.offset + page.items.length < page.total →
            ∃ next, search library { request with offset := page.offset + page.items.length } =
                .ok next ∧
              next.offset = page.offset + page.items.length ∧ next.items ≠ [] ∧
              ∀ shown w', (Writer.start .pretty baseDir).take next request.query = .ok (shown, w') →
                ∃ more, shown =
                  Number.intText (page.offset + page.items.length + 1) ++ ". [" ++ more)) := by
  obtain ⟨ordered, hshows⟩ := search_showsPage h
  refine ⟨exists_take_pretty_iff h, fun printed w htake => ?_⟩
  have hlisting := (take_pretty_eq_ok_iff.1 htake).1
  refine ⟨hshows.total_eq, fun hnil => excuses_of_listing h hnil hlisting, fun hne =>
    ⟨lists_of_listing h hne hlisting, fun hleft => ?_⟩⟩
  obtain ⟨next, hnext, hoffset, hsome⟩ := exists_next h hne hleft
  refine ⟨next, hnext, hoffset, hsome, fun shown w' hshown => ?_⟩
  obtain ⟨_, entries, -, -, hnumbered, rfl⟩ :=
    lists_of_listing hnext hsome (take_pretty_eq_ok_iff.1 hshown).1
  rw [hoffset] at hnumbered
  obtain ⟨more, rfl⟩ := hnumbered.exists_eq
  simp only [String.append_assoc]
  exact ⟨_, rfl⟩

/-- The first of the titles at an address, where there is another. -/
theorem take_of_search_oneByOne :
    letI := Calendar.Reader.onDay ⟨2024, 2, 29⟩
    ∃ page printed w, search Order.levelTitles (oneByOne 0) = .ok page ∧
      (Writer.start .pretty "").take page (oneByOne 0).query = .ok (printed, w) ∧
      page.items ≠ [] ∧ page.offset + page.items.length < page.total ∧
      page.total = (matched Order.levelTitles (oneByOne 0).query).length ∧
      Lists page printed ∧
      ∃ next, search Order.levelTitles { oneByOne 0 with offset := 1 } = .ok next ∧
        next.items ≠ [] := by
  let := Calendar.Reader.onDay ⟨2024, 2, 29⟩
  obtain ⟨found, hsearch, hentries⟩ := exists_search_oneByOne 0
  have hitems : ∃ e : Entry, e.record.year = .ok Record.missingYear ∧
      (SearchPage.of found 1 (0 : Nat)).items = [e] := by
    rw [SearchPage.of, hentries]
    exact ⟨_, rfl, rfl⟩
  have hoffset : (SearchPage.of found 1 (0 : Nat)).offset = 0 := rfl
  have htotal : (SearchPage.of found 1 (0 : Nat)).total = 2 := by
    rw [SearchPage.of, hentries]
    rfl
  generalize SearchPage.of found 1 (0 : Nat) = page at hsearch hitems hoffset htotal
  obtain ⟨e, hyear, hitems⟩ := hitems
  have hend : page.offset + page.items.length = 1 := by simp [hoffset, hitems]
  have hsome : page.items ≠ [] := by simp [hitems]
  have hleft : page.offset + page.items.length < page.total := by
    rw [hend, htotal]
    decide
  have hyears : ∀ e ∈ page.items, ∃ y, e.record.year = .ok y := by
    rw [hitems]
    exact List.forall_mem_singleton.2 ⟨_, hyear⟩
  obtain ⟨hwritten, htold⟩ := take_of_search hsearch ""
  obtain ⟨⟨printed, w⟩, htake⟩ := hwritten.2 hyears
  obtain ⟨hcount, -, hlists⟩ := htold printed w htake
  obtain ⟨hpage, hgoesOn⟩ := hlists hsome
  obtain ⟨next, hnext, -, hshows, -⟩ := hgoesOn hleft
  rw [hend] at hnext
  exact ⟨page, printed, w, hsearch, htake, hsome, hleft, hcount, hpage, next, hnext, hshows⟩

end Pages

end Bibliography.Output
