import Bibliography.Output.Writer
import Bibliography.Proofs.Json.RoundTrip
import Bibliography.Proofs.Library.Loading
import Bibliography.Proofs.Output.Plain
import Bibliography.Proofs.Search.Reference
/-!
# Libraries that are written

The records of a library are written as a library that holds the same records,
and so is every choice of them (`load_written`): what a search writes as JSON
can be loaded again and holds just what its page shows.
-/

namespace Bibliography

open Json (IsText Readable)

namespace Library

variable {path : String} {records : List Record}

/-- Records that have been read, with identifiers. -/
def Loaded (records : List Record) : Prop :=
  ∀ r ∈ records, Readable (.obj r.members) ∧ HasId r

theorem loaded_of_load {place : Place} (h : load path place = .ok records) : Loaded records := by
  obtain ⟨text, -, htext, hid⟩ := load_eq_ok_iff.1 h
  intro r hr
  refine ⟨?_, hid r hr⟩
  cases Json.readable_of_isText htext with
  | arr hitems => exact hitems _ (List.mem_map_of_mem hr)

theorem Loaded.isText (h : Loaded records) : IsText (toJson records).pretty.toList (toJson records) := by
  have hreadable : Readable (toJson records) := by
    refine .arr fun v hv => ?_
    obtain ⟨r, hr, rfl⟩ := List.mem_map.1 hv
    exact (h r hr).1
  exact Json.parse_eq_ok_iff.1 (Json.parse_pretty hreadable)

/-- What is written of loaded records can be loaded, also with a line break at
its end, and prints as it is. -/
theorem Loaded.load_written (h : Loaded records) (path : String) {out : String}
    (hout : out = (toJson records).pretty ∨ out = Output.line (toJson records).pretty) :
    load path (.file out.toUTF8) = .ok records := by
  obtain ⟨ts, hwrites, hphrase⟩ := h.isText
  refine load_eq_ok_iff.2 ⟨out, rfl, ?_, fun r hr => (h r hr).2⟩
  -- a line break at the end is one more blank, and a terminal changes nothing
  rcases hout with rfl | rfl
  · exact ⟨ts, hwrites, hphrase⟩
  · have hline : Json.Writes ts ((toJson records).pretty ++ "\n").toList := by
      have hbreak : Json.Writes [] ['\n'] := .gap rfl .nil
      have hmore := hwrites.append hbreak
      rw [List.append_nil] at hmore
      rw [String.toList_append]
      exact hmore
    rw [Output.line, Output.plain_of_writes hline]
    exact ⟨ts, hline, hphrase⟩

end Library

/-! ## Pages as JSON -/

section Pages

variable {path : String} {place : Place} {library records : List Record} {plan : Plan}
  {found : Arrangement}

/-- A page shows nothing but what was found. -/
theorem mem_of_mem_page {limit offset : Int} {e : Entry}
    (h : e ∈ (SearchPage.of found limit offset).items) : e ∈ found.entries := by
  have hpage : e ∈ (Page.of found.entries limit offset).items := h
  unfold Page.of at hpage
  split at hpage
  · exact List.mem_of_mem_drop hpage
  · exact List.mem_of_mem_drop (List.mem_of_mem_take hpage)

theorem mem_of_mem_found [Calendar.Reader] (hfound : plan.arrangement library = .ok found)
    {e : Entry} (he : e ∈ found.entries) : e.record ∈ library := by
  have hmatched : e ∈ matched library plan.query :=
    (arranges_of_arrangement hfound).perm.mem_iff.1 he
  have hentry : e ∈ entries library := List.mem_of_mem_filter hmatched
  exact List.mem_of_getElem? (mem_entries_iff.1 hentry)

theorem loaded_page [Calendar.Reader] (h : Library.Loaded library)
    (hfound : plan.arrangement library = .ok found) (limit offset : Int) :
    Library.Loaded ((SearchPage.of found limit offset).items.map (·.record)) := by
  intro r hr
  obtain ⟨e, he, rfl⟩ := List.mem_map.1 hr
  exact h e.record (mem_of_mem_found hfound (mem_of_mem_page he))

/-- What a writer leaves behind: what it prints or saves at the end. -/
def Output.Writer.Ending.Leaves (out : String) : Output.Writer.Ending → Prop
  | print text => text = out
  | save _ text => text = out

theorem leaves_json {w : Output.Writer} {out : String} (hjson : w.format = .json)
    (h : w.finish.Leaves out) :
    out = (Library.toJson w.collected).pretty ∨
      out = Output.line (Library.toJson w.collected).pretty := by
  unfold Output.Writer.finish at h
  rw [hjson] at h
  by_cases hempty : w.baseDir.isEmpty = true
  · simp only [hempty] at h
    exact .inr h.symm
  · simp only [hempty] at h
    exact .inl h.symm

/-- **What is written is what was read.** The records of a library are written
as a library of the same records, and so are those on a page of any search,
whether the page is printed or saved; nothing is printed before. -/
theorem load_rewritten [Calendar.Reader] (h : Library.load path place = .ok records) :
    (∀ path', Library.load path' (.file (Library.toJson records).pretty.toUTF8) = .ok records ∧
      ∀ again, Library.load path' (.file (Library.toJson records).pretty.toUTF8) = .ok again →
        (Library.toJson again).pretty = (Library.toJson records).pretty) ∧
    ∀ (plan : Plan) (found : Arrangement), plan.arrangement records = .ok found →
      ∀ (baseDir query : String), ∃ writer,
        (Output.Writer.start .json baseDir).take (SearchPage.of found plan.limit plan.offset) query =
          .ok ("", writer) ∧
        ∀ out, writer.finish.Leaves out → ∀ path', Library.load path' (.file out.toUTF8) =
          .ok ((SearchPage.of found plan.limit plan.offset).items.map (·.record)) := by
  have hloaded := Library.loaded_of_load h
  refine ⟨fun path' => ?_, fun plan found hfound baseDir query => ?_⟩
  · have hwritten := hloaded.load_written path' (.inl rfl)
    refine ⟨hwritten, fun again hagain => ?_⟩
    obtain rfl : records = again := Except.ok.inj (hwritten.symm.trans hagain)
    rfl
  · have hpage := loaded_page hloaded hfound plan.limit plan.offset
    exact ⟨_, rfl, fun out hout path' => hpage.load_written path' (leaves_json rfl hout)⟩

/-- The listing of a library. -/
def listAll : Plan := ⟨"", .relevance, .descending, 0, 0⟩

/-- A key that comes twice, an escape and odd spacing do no harm. -/
theorem load_rewritten_repeatedKey :
    letI := Calendar.Reader.onDay ⟨2024, 2, 29⟩
    ∃ records found,
      Library.load "library.json"
        (.file "[ \x7b\"id\":\"x\", \"id\" : \"\\u0041\"\x7d]".toUTF8) = .ok records ∧
      listAll.arrangement records = .ok found ∧ found.entries.length = 1 ∧
      (∀ path', Library.load path' (.file (Library.toJson records).pretty.toUTF8) = .ok records ∧
        ∀ again, Library.load path' (.file (Library.toJson records).pretty.toUTF8) = .ok again →
          (Library.toJson again).pretty = (Library.toJson records).pretty) ∧
      ∀ (baseDir query : String), ∃ writer,
        (Output.Writer.start .json baseDir).take (SearchPage.of found 0 0) query = .ok ("", writer) ∧
        ∀ out, writer.finish.Leaves out → ∀ path', Library.load path' (.file out.toUTF8) =
          .ok ((SearchPage.of found 0 0).items.map (·.record)) := by
  let := Calendar.Reader.onDay ⟨2024, 2, 29⟩
  have hread : (Library.ofText "library.json"
      "[ \x7b\"id\":\"x\", \"id\" : \"\\u0041\"\x7d]").map List.length = .ok 1 := by
    decide +kernel
  obtain ⟨records, hrecords, hlength⟩ := map_eq_ok_iff.1 hread
  obtain ⟨r, rfl⟩ := List.length_eq_one_iff.1 hlength
  have hload := (Library.load_eq_iff _ (.ok [r]) nofun nofun nofun).2 ⟨_, rfl, hrecords⟩
  have hlisted : listAll.arrangement [r] = .ok ⟨entries [r], []⟩ := rfl
  obtain ⟨hsame, hpages⟩ := load_rewritten hload
  exact ⟨_, _, hload, hlisted, rfl, hsame, hpages listAll _ hlisted⟩

end Pages

end Bibliography
