import Bibliography.Proofs.Match.OwnText
import Bibliography.Proofs.Order.Sortable
import Bibliography.Proofs.Query.RoundTrip
import Bibliography.Proofs.Search.Legibility
import Bibliography.Proofs.Search.Reference
/-!
# Every record is found by its own texts

`ownQuery` asks for a text in a field, in quotes unless it is a year, and
reads back as the one token that was meant (`tokenize_ownQuery`). So a record
is a hit of the query for every text that it has, and a search shows it
wherever the library can be listed: `exists_search_ownQuery`.
-/

namespace Bibliography

open Match (Hit hits hit? Holds)
open Query (Field Token Canonical IsWord IsPhrase tokenize token inQuotes isBare)

/-! ## Queries for one text -/

/-- The query for a text in a field: a year as it is, any other in quotes. -/
def ownQuery (f : Field) (t : String) : String :=
  f.name ++ ":" ++ if f = .year then t else "\"" ++ t ++ "\""

/-- What the query is read as. -/
def ownToken (f : Field) (t : String) : Token :=
  ⟨ownQuery f t, t, some f, f ≠ .year⟩

section Queries

variable {t : Token} {f : Field} {s : String} {r : Record} {y : String}

theorem Query.Canonical.tokenize_raw (h : Canonical t) : tokenize t.raw = [t] := by
  have hreads : Query.ReadsAll (t.raw.toList ++ []) [t] := .read (h.reads Query.stops_nil) .done
  rw [List.append_nil] at hreads
  exact Query.readsAll_iff.1 hreads

theorem isBare_of_isDigit {c : Char} (h : c.isDigit = true) : isBare c = true := by
  have hrange := Text.toNat_of_isDigit h
  have hquote : c ≠ '"' := by
    rintro rfl
    exact absurd h (by decide)
  simp only [isBare, Text.isBlank, Bool.and_eq_true, Bool.not_eq_true', bne_iff_ne]
  refine ⟨?_, hquote⟩
  simp only [Bool.or_eq_false_iff, Bool.and_eq_false_iff, decide_eq_false_iff_not,
    beq_eq_false_iff_ne]
  omega

/-- The text of a year is a word. -/
theorem isWord_of_year (hy : r.year = .ok y) : IsWord y.toList := by
  obtain ⟨n, -, hy⟩ := bind_eq_ok_iff.1 hy
  have hdigits : ∀ c ∈ Number.decimalDigits n.natAbs, isBare c = true :=
    fun c hc => isBare_of_isDigit (Number.isDigit_of_mem_decimalDigits hc)
  have hne : Number.decimalDigits n.natAbs ≠ [] := Nat.toDigits_ne_nil
  split at hy
  · cases hy
    decide
  · unfold writeInt at hy
    split at hy
    · cases hy
    · cases hy
      rw [Number.intText, String.toList_ofList]
      split
      · exact ⟨List.cons_ne_nil _ _, List.forall_mem_cons.2 ⟨by decide, hdigits⟩⟩
      · exact ⟨hne, hdigits⟩

theorem canonical_ownToken (hyear : f = .year → IsWord s.toList)
    (hphrase : f ≠ .year → IsPhrase s.toList) : Canonical (ownToken f s) := by
  by_cases hf : f = .year
  · have htoken : ownToken f s = token (f.lead ++ s.toList) s.toList (some f) false := by
      simp [ownToken, ownQuery, token, Query.Field.lead, hf, ← String.toList_inj]
    rw [htoken]
    exact .fieldWord f (hyear hf)
  · have htoken : ownToken f s = token (f.lead ++ inQuotes s.toList) s.toList (some f) true := by
      simp [ownToken, ownQuery, token, Query.Field.lead, inQuotes, hf, ← String.toList_inj]
    rw [htoken]
    exact .fieldPhrase f (hphrase hf)

/-- **The query for a text of a record is read as that.** -/
theorem tokenize_ownQuery (h : Holds r f s) (hphrase : f ≠ .year → IsPhrase s.toList) :
    tokenize (ownQuery f s) = [ownToken f s] := by
  refine (canonical_ownToken (fun hf => ?_) hphrase).tokenize_raw
  subst hf
  cases h with
  | year hy => exact isWord_of_year hy

end Queries

/-! ## What is listed can be searched -/

section Listings

variable {library : List Record} {query sort order : String} {listing : SearchPage} {hs : List Hit}
variable {criterion : Order.Criterion} {direction : Order.Direction} {found listed : Arrangement}

/-- Where all records can be put in order, hits can be: by a field they are
sorted as some of the records, and by relevance their years have to be told. -/
theorem Arranges.exists_arranges [Calendar.Reader]
    (hlisted : Arranges library ⟨"", criterion, direction, 0, 0⟩ listed)
    (hblank : ¬ isBlankText query) (hhits : hits (tokenize query) (entries library) = .ok hs)
    (hyears : criterion = .relevance → ∀ r ∈ library, ∃ y, r.year = .ok y) :
    ∃ found, Arranges library ⟨query, criterion, direction, 0, 0⟩ found := by
  have hmem : ∀ h ∈ hs, h.entry ∈ entries library := fun h hh => (Match.hit?_of_mem hhits hh).1
  cases hlisted with
  | listed _ hcriterion =>
    have hall := Match.forall_entries_iff.2 (hyears hcriterion)
    have hranked : ∃ sorted,
        Order.sortByRelevance (·.strength) (·.entry.record) hs = .ok sorted :=
      Order.exists_sortByRelevance_eq_ok fun h hh => hall _ (hmem h hh)
    obtain ⟨sorted, hsorted⟩ := hranked
    exact ⟨_, .ranked hblank hcriterion hhits (rank_eq_ok_iff.2 ⟨sorted, hsorted, rfl⟩)⟩
  | sorted _ hcriterion hsorted =>
    have hsortable := Order.exists_sortByField_iff.1 ⟨_, hsorted⟩
    obtain ⟨ordered, hordered⟩ :=
      Order.exists_sortByField_iff.2 (hsortable.mono (List.forall_mem_map.2 hmem))
    exact ⟨_, .realigned hblank hcriterion hhits hordered⟩
  | ranked hne _ _ _ | realigned hne _ _ _ => exact absurd rfl hne

/-- The page without a limit shows everything. -/
theorem items_of_zero : (SearchPage.of found 0 0).items = found.entries := by
  have hpage : (SearchPage.of found 0 0).items = (Page.of found.entries (0 : Nat) (0 : Nat)).items :=
    rfl
  rw [hpage, Page.items_of, if_pos rfl, List.drop_zero]

/-- **Where a library can be listed, a search shows every hit.** By relevance
the years have to be told besides. -/
theorem exists_search_of_listing [Calendar.Reader] (hblank : ¬ isBlankText query)
    (hhits : hits (tokenize query) (entries library) = .ok hs)
    (hlisting : search library { query := "", sort, order } = .ok listing)
    (hyears : Order.Criterion.ofName sort = .ok .relevance → ∀ r ∈ library, ∃ y, r.year = .ok y) :
    ∃ page, search library { query, sort, order } = .ok page ∧
      page.items.Perm (hs.map (·.entry)) := by
  obtain ⟨_, listed, hplan, hlisted, -⟩ := search_eq_ok_iff.1 hlisting
  obtain ⟨criterion, direction, hcriterion, hdirection, hbounds, rfl⟩ := plan_eq_ok_iff.1 hplan
  obtain ⟨found, harranges⟩ := (arranges_of_arrangement hlisted).exists_arranges hblank hhits
    fun hrelevance => hyears (hrelevance ▸ hcriterion)
  have hplan' : ({ query, sort, order } : Request).plan = .ok ⟨query, criterion, direction, 0, 0⟩ :=
    plan_eq_ok_iff.2 ⟨criterion, direction, hcriterion, hdirection, hbounds, rfl⟩
  refine ⟨_, search_eq_ok_iff.2 ⟨_, found, hplan', harranges.arrangement, rfl⟩, ?_⟩
  rw [items_of_zero, ← matched_hits hblank hhits]
  exact harranges.perm

/-- A record by itself can be listed by the time of its last change, if that can be read
and so can the time of its making. -/
theorem exists_listing_singleton [Calendar.Reader] {r : Record}
    (hcreated : ∃ m, r.created = .ok m) (hupdated : ∃ m, r.updated = .ok m) :
    ∃ listing, search [r] { query := "" } = .ok listing := by
  obtain ⟨m, hm⟩ := hcreated
  obtain ⟨n, hn⟩ := hupdated
  have hordered : ∃ ordered,
      Order.sortByField (·.record) .updated .descending (entries [r]) = .ok ordered :=
    Order.exists_sortByField_iff.2
      ⟨Order.comparable_singleton ⟨.moment m, by rw [Order.Key.of, hm]; rfl⟩,
        Order.comparable_singleton ⟨.moment n, by rw [Order.Key.of, hn]; rfl⟩⟩
  obtain ⟨ordered, hordered⟩ := hordered
  have harranges : Arranges [r] ⟨"", .field .updated, .descending, 0, 0⟩ ⟨ordered, []⟩ :=
    .sorted rfl rfl hordered
  exact ⟨_, search_eq_ok_iff.2 ⟨_, _, rfl, harranges.arrangement, rfl⟩⟩

end Listings

/-! ## Records and their texts -/

section Texts

variable {library : List Record} {f : Field} {t sort order : String} {e : Entry} {r : Record}
variable {listing : SearchPage}

theorem not_isBlankText_ownQuery : ¬ isBlankText (ownQuery f t) := by
  intro hblank
  have hcolon : Text.isBlank ':' = true := List.all_eq_true.1 hblank ':' (by simp [ownQuery])
  exact absurd hcolon (by decide)

/-- A record is a hit of the query for its own text. -/
theorem exists_hit?_ownQuery (h : Holds e.record f t) (hphrase : f ≠ .year → IsPhrase t.toList) :
    ∃ hit, hit? (tokenize (ownQuery f t)) e = .ok (some hit) := by
  obtain ⟨m, hfound⟩ := Match.exists_find_self h
  have hfirst : Match.ofToken (ownToken f t) e.record = .ok (some m).toList :=
    Match.ofToken_field rfl hfound
  rw [tokenize_ownQuery h hphrase, Match.hit?_of_ne_nil (List.cons_ne_nil _ _),
    Match.ofTokens_cons hfirst]
  exact ⟨_, rfl⟩

/-- So a search for the text shows it, where the library can be listed. -/
theorem exists_search_of_holds [Calendar.Reader] (he : e ∈ entries library) (h : Holds e.record f t)
    (hphrase : f ≠ .year → IsPhrase t.toList)
    (hlisting : search library { query := "", sort, order } = .ok listing)
    (hyears : f = .year ∨ Order.Criterion.ofName sort = .ok .relevance →
      ∀ r ∈ library, ∃ y, r.year = .ok y) :
    ∃ page, search library { query := ownQuery f t, sort, order } = .ok page ∧ e ∈ page.items := by
  have hhits : ∃ hs, hits (tokenize (ownQuery f t)) (entries library) = .ok hs := by
    -- the one token asks for no year unless that is its field
    rw [tokenize_ownQuery h hphrase]
    refine Match.exists_hits fun token htoken hasks => ?_
    rw [List.mem_singleton.1 htoken] at hasks
    exact Match.forall_entries_iff.2 (hyears (.inl (hasks f rfl)))
  obtain ⟨hs, hhits⟩ := hhits
  obtain ⟨page, hpage, hperm⟩ :=
    exists_search_of_listing not_isBlankText_ownQuery hhits hlisting fun hsort => hyears (.inr hsort)
  refine ⟨page, hpage, hperm.mem_iff.2 ?_⟩
  obtain ⟨hit, hhit⟩ := exists_hit?_ownQuery h hphrase
  obtain ⟨-, rfl⟩ := Match.hits_eq_ok_iff.1 hhits
  rw [← Match.entry_of_hit? hhit]
  exact List.mem_map_of_mem (List.mem_filterMap.2 ⟨e, he, Match.hitOf?_eq_some_iff.2 hhit⟩)

/-- **Every record is found by its own texts.** Let a record have a text in a
field, which is not blank and without quotes unless it is the year. By itself
the record is found by the query for the text, unless reading its timestamps
crashes. In a library it is a hit of the query, and a search shows it in every
order that the library can be listed in; only for a year or by relevance the
other years have to be told. -/
theorem exists_search_ownQuery [Calendar.Reader] (h : Holds r f t)
    (hphrase : f ≠ .year → IsPhrase t.toList) :
    ((∃ m, r.created = .ok m) → (∃ m, r.updated = .ok m) →
      ∃ page, search [r] { query := ownQuery f t } = .ok page ∧ ⟨0, r⟩ ∈ page.items) ∧
    ∀ library position, library[position]? = some r →
      (∃ hit, hit? (tokenize (ownQuery f t)) ⟨position, r⟩ = .ok (some hit)) ∧
      ∀ sort order listing, search library { query := "", sort, order } = .ok listing →
        (f = .year ∨ Order.Criterion.ofName sort = .ok .relevance →
          ∀ r ∈ library, ∃ y, r.year = .ok y) →
        ∃ page, search library { query := ownQuery f t, sort, order } = .ok page ∧
          ⟨position, r⟩ ∈ page.items := by
  refine ⟨fun hcreated hupdated => ?_,
    fun library position hposition => ⟨exists_hit?_ownQuery h hphrase, ?_⟩⟩
  · obtain ⟨listing, hlisting⟩ := exists_listing_singleton hcreated hupdated
    refine exists_search_of_holds (mem_entries_iff.2 rfl) h hphrase hlisting ?_
    rintro (rfl | hsort)
    · cases h with
      | year hy => exact List.forall_mem_singleton.2 ⟨t, hy⟩
    · cases hsort
  · intro sort order listing hlisting hyears
    exact exists_search_of_holds (mem_entries_iff.2 hposition) h hphrase hlisting hyears

/-- A record with nothing but marks in its title. -/
def unlettered : Record :=
  ⟨[("title", .str "¿ … ?"), ("issued", .obj [("date-parts", .arr [.arr [.int (-44)]])])]⟩

theorem exists_search_ownQuery_unlettered :
    letI := Calendar.Reader.onDay ⟨2024, 2, 29⟩
    Holds unlettered .title "¿ … ?" ∧ (Field.title ≠ .year → IsPhrase "¿ … ?".toList) ∧
      ownQuery .title "¿ … ?" = "title:\"¿ … ?\"" ∧
      ∃ page, search [unlettered] { query := ownQuery .title "¿ … ?" } = .ok page ∧
        ⟨0, unlettered⟩ ∈ page.items := by
  let := Calendar.Reader.onDay ⟨2024, 2, 29⟩
  have hholds : Holds unlettered .title "¿ … ?" := .title rfl
  have hphrase : Field.title ≠ .year → IsPhrase "¿ … ?".toList := fun _ => by decide
  exact ⟨hholds, hphrase, rfl, (exists_search_ownQuery hholds hphrase).1 ⟨_, rfl⟩ ⟨_, rfl⟩⟩

end Texts

end Bibliography
