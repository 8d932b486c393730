import Bibliography.Output.Writer
import Bibliography.Proofs.Search.Walk
/-!
# Writing a search page by page

But for the listing, which counts and sums up, a writer sees nothing of a page but
its records (`take_eq`): it prints some text for each, or keeps it for the end. So
pages that are taken one after the other come to what one page of all their records
comes to (`takeAll_eq`), and how a search is cut into pages cannot be seen from what
is written of it (`exists_write_walk`).
-/

namespace Bibliography.Output

/-- What comes of writing: all that is printed, and a text that is saved, with the
directory that it is saved in. -/
structure Written where
  printed : String
  saved : Option (Path × String)

namespace Writer

/-- Takes pages that a query found, one after the other: what is printed of them,
and the writer that has taken them. -/
def takeAll (w : Writer) (query : String) :
    List SearchPage → Except NumeralError (String × Writer)
  | [] => .ok ("", w)
  | page :: pages => do
    let (first, w) ← w.take page query
    let (rest, w) ← w.takeAll query pages
    return (first ++ rest, w)

/-- Ends the writing when some text has been printed. -/
def concluded (w : Writer) (printed : String) : Written :=
  match w.finish with
  | .print last => ⟨printed ++ last, none⟩
  | .save directory text => ⟨printed, some (directory, text)⟩

/-- Takes pages one after the other and ends the writing. -/
def write (w : Writer) (query : String) (pages : List SearchPage) :
    Except NumeralError Written :=
  (w.takeAll query pages).map fun (printed, w) => w.concluded printed

/-! ## Records alone -/

/-- What is printed of records as they are taken. -/
def lines (format : Format) (records : List Record) : String :=
  match format with
  | .ids => String.join (records.map idLine)
  | .uuid => String.join (records.map uuidLine)
  | .pretty | .json => ""

/-- The writer that has kept records for the end. -/
def keeping (w : Writer) (records : List Record) : Writer :=
  match w.format with
  | .json => { w with collected := w.collected ++ records }
  | .pretty | .ids | .uuid => w

/-- The records of pages. -/
def recordsOf (pages : List SearchPage) : List Record :=
  (pages.flatMap (·.items)).map (·.record)

section Taking

variable {w : Writer} {format : Format} {baseDir query : String} {page : SearchPage}
variable {pages pages' : List SearchPage} {rs rs' : List Record}

theorem lines_append : lines format (rs ++ rs') = lines format rs ++ lines format rs' := by
  cases format <;> simp [lines]

theorem format_keeping : (w.keeping rs).format = w.format := by
  obtain ⟨format, baseDir, collected⟩ := w
  cases format <;> rfl

theorem keeping_append : (w.keeping rs).keeping rs' = w.keeping (rs ++ rs') := by
  obtain ⟨format, baseDir, collected⟩ := w
  cases format with
  | json => simp only [keeping, List.append_assoc]
  | pretty | ids | uuid => rfl

/-- **Of a page that is not listed only the records are seen.** -/
theorem take_eq (hformat : w.format ≠ .pretty) :
    w.take page query = .ok (lines w.format (recordsOf [page]), w.keeping (recordsOf [page])) := by
  have hrecords : recordsOf [page] = page.items.map (·.record) := by
    rw [recordsOf, List.flatMap_singleton]
  rw [hrecords]
  obtain ⟨format, baseDir, collected⟩ := w
  cases format with
  | pretty => exact absurd rfl hformat
  | json | ids | uuid => rfl

/-- **So of pages one after the other only all their records are.** -/
theorem takeAll_eq (hformat : w.format ≠ .pretty) :
    w.takeAll query pages = .ok (lines w.format (recordsOf pages), w.keeping (recordsOf pages)) := by
  induction pages generalizing w with
  | nil =>
    obtain ⟨format, baseDir, collected⟩ := w
    cases format <;> simp [takeAll, recordsOf, lines, keeping]
  | cons page pages ih =>
    have hrecords : recordsOf (page :: pages) = recordsOf [page] ++ recordsOf pages := by
      simp [recordsOf]
    have hrest := ih (w := w.keeping (recordsOf [page])) (format_keeping.symm ▸ hformat)
    rw [format_keeping, keeping_append, ← hrecords] at hrest
    rw [takeAll, bind_eq_ok_iff]
    refine ⟨_, take_eq hformat, bind_eq_ok_iff.2 ⟨_, hrest, ?_⟩⟩
    rw [hrecords, lines_append]
    rfl

/-- What is written depends on the records alone, however they come in pages. -/
theorem write_eq (hformat : w.format ≠ .pretty) :
    w.write query pages =
      .ok ((w.keeping (recordsOf pages)).concluded (lines w.format (recordsOf pages))) := by
  rw [write, takeAll_eq hformat]
  rfl

/-- Without a directory nothing is saved. -/
theorem saved_concluded {printed : String} (h : w.baseDir = "") :
    (w.concluded printed).saved = none := by
  obtain ⟨format, baseDir, collected⟩ := w
  obtain rfl : baseDir = "" := h
  cases format <;> rfl

theorem baseDir_keeping : (w.keeping rs).baseDir = w.baseDir := by
  obtain ⟨format, baseDir, collected⟩ := w
  cases format <;> rfl

end Taking

/-! ## A search and its pages -/

section Searching

variable {library : List Record} {request : Request} {page : SearchPage} {format : Format}

/-- **What is written of a search does not depend on its pages.** Let a search by a
limit return. In a format that is not the listing, one writer that takes the pages
from the start, one after the other, comes to what another comes to that takes the
one page without a limit: the same is printed and, where JSON is saved, the same
saved. Without a directory for that everything is printed. -/
theorem exists_write_walk [Calendar.Reader] (hformat : format ≠ .pretty)
    (hlimit : 0 < request.limit)
    (h : search library request = .ok page) (baseDir : String) :
    ∃ pages whole written,
      Walk library { request with offset := 0 } pages ∧
      (∀ pages', Walk library { request with offset := 0 } pages' → pages' = pages) ∧
      search library { request with limit := 0, offset := 0 } = .ok whole ∧
      (start format baseDir).write request.query pages = .ok written ∧
      (start format baseDir).write request.query [whole] = .ok written ∧
      (baseDir = "" → written.saved = none) := by
  obtain ⟨found, haligned, hsearch⟩ := exists_arrangement h
  obtain ⟨text, sort, order, limit, offset⟩ := request
  lift limit to Nat using hlimit.le
  have hpos : 0 < limit := Int.natCast_pos.1 hlimit
  obtain ⟨pages, hwalk, hshows⟩ := exists_walk_from haligned hpos (hsearch limit) 0
  have hrecords : recordsOf [SearchPage.of found (0 : Nat) (0 : Nat)] = recordsOf pages := by
    have hwhole : (SearchPage.of found (0 : Nat) (0 : Nat)).items = found.entries :=
      Page.items_of
    rw [recordsOf, recordsOf, hshows.items_eq, List.flatMap_singleton, hwhole, List.drop_zero]
  refine ⟨pages, _, _, hwalk, fun _ => hwalk.unique, hsearch 0 0, write_eq hformat, ?_, ?_⟩
  · rw [write_eq hformat, hrecords]
  · exact fun hdir => saved_concluded (baseDir_keeping.trans hdir)

/-- The titles at an address, one to a page, come to one array. -/
theorem exists_write_walk_oneByOne :
    letI := Calendar.Reader.onDay ⟨2024, 2, 29⟩
    Format.json ≠ .pretty ∧ 0 < (oneByOne 0).limit ∧
      ∃ page, search Order.levelTitles (oneByOne 0) = .ok page ∧ page.nextOffset = some 1 ∧
        ∃ pages whole written,
          Walk Order.levelTitles { oneByOne 0 with offset := 0 } pages ∧
          (∀ pages', Walk Order.levelTitles { oneByOne 0 with offset := 0 } pages' →
            pages' = pages) ∧
          search Order.levelTitles { oneByOne 0 with limit := 0, offset := 0 } = .ok whole ∧
          (start .json "").write (oneByOne 0).query pages = .ok written ∧
          (start .json "").write (oneByOne 0).query [whole] = .ok written ∧
          written.saved = none := by
  let := Calendar.Reader.onDay ⟨2024, 2, 29⟩
  obtain ⟨found, hsearch, hentries⟩ := exists_search_oneByOne 0
  have hformat : Format.json ≠ .pretty := by decide
  obtain ⟨pages, whole, written, hwalk, hunique, hwhole, hpages, hsame, hsaved⟩ :=
    exists_write_walk hformat Int.one_pos hsearch ""
  refine ⟨hformat, Int.one_pos, _, hsearch, ?_, pages, whole, written, hwalk, hunique, hwhole,
    hpages, hsame, hsaved rfl⟩
  rw [SearchPage.of, hentries]
  rfl

end Searching

end Writer

end Bibliography.Output
