import Bibliography.Proofs.Match.OwnText
import Bibliography.Proofs.Order.Relevance
import Bibliography.Proofs.Search.Conjunction
/-!
# When a library can be searched

Of all that a record holds only its year can stop a search, and every token
that is not kept to another field asks for it (`exists_hits_iff`). So a library
can be searched for every text, and what is found can be ranked, just when no
record of it has an illegible year (`exists_ranked_hits_iff`).
-/

namespace Bibliography.Match

open Query (Token tokenize)

/-- A token that is compared with the year: one in no field, or in that one. -/
def AsksYear (t : Token) : Prop :=
  ∀ f ∈ t.field, f = .year

section Tokens

variable {r : Record} {y : String} {t : Token} {ts : List Token} {e : Entry} {es : List Entry}

theorem year_mem_consulted (h : AsksYear t) : Rule.year ∈ consulted t.field := by
  unfold AsksYear at h
  cases hfield : t.field with
  | none => decide
  | some f =>
    rw [hfield] at h
    rw [h f rfl]
    exact List.mem_singleton_self _

/-- A token that is compared with the year needs it. -/
theorem exists_year_of_ofToken {found : List Found} (h : AsksYear t)
    (hfound : ofToken t r = .ok found) : ∃ y, r.year = .ok y := by
  obtain ⟨os, hos, -⟩ := bind_eq_ok_iff.1 hfound
  rw [mapM_eq_ok_iff] at hos
  have hmem : Rule.find t.value r .year ∈ os.map .ok :=
    hos ▸ List.mem_map_of_mem (year_mem_consulted h)
  obtain ⟨o, -, ho⟩ := List.mem_map.1 hmem
  obtain ⟨y, hy, -⟩ := map_eq_ok_iff.1 ho.symm
  exact ⟨y, hy⟩

/-- No token needs more than the year, and one kept to another field not even
that. -/
theorem exists_ofToken_of_asksYear (h : AsksYear t → ∃ y, r.year = .ok y) :
    ∃ found, ofToken t r = .ok found := by
  by_cases hasks : AsksYear t
  · obtain ⟨y, hy⟩ := h hasks
    exact ⟨_, ofToken_eq_ok hy⟩
  · simp only [AsksYear, Classical.not_forall, Option.mem_def] at hasks
    obtain ⟨f, hfield, hf⟩ := hasks
    have hfind : ∃ o, (Rule.ofField f).find t.value r = .ok o := by
      cases f with
      | year => exact absurd rfl hf
      | author | title | doi | pmid | pmcid | url | keyword | tag => exact ⟨_, rfl⟩
    obtain ⟨o, ho⟩ := hfind
    exact ⟨_, ofToken_field hfield ho⟩

theorem exists_ofTokens (h : ∀ t ∈ ts, AsksYear t → ∃ y, r.year = .ok y) :
    ∃ found, ofTokens r ts = .ok found := by
  induction ts with
  | nil => exact ⟨some [], rfl⟩
  | cons t ts ih =>
    obtain ⟨ht, hts⟩ := List.forall_mem_cons.1 h
    obtain ⟨first, hfirst⟩ := exists_ofToken_of_asksYear ht
    obtain ⟨found, hfound⟩ := ih hts
    rw [ofTokens_cons hfirst, hfound]
    split
    · exact ⟨none, rfl⟩
    · exact ⟨_, rfl⟩

/-- Records can be searched whose years can be told if a token asks for them. -/
theorem exists_hits (h : ∀ t ∈ ts, AsksYear t → ∀ e ∈ es, ∃ y, e.record.year = .ok y) :
    ∃ hs, hits ts es = .ok hs := by
  refine ⟨_, hits_eq_ok_iff.2 ⟨fun e he => ?_, rfl⟩⟩
  unfold hit?
  split
  · exact ⟨none, rfl⟩
  · obtain ⟨found, hfound⟩ := exists_ofTokens fun t ht hasks => h t ht hasks e he
    exact ⟨_, by rw [hfound]; rfl⟩

/-- **Where the first token asks for the year, every record has to tell it.** -/
theorem exists_hits_iff (h : AsksYear t) :
    (∃ hs, hits (t :: ts) es = .ok hs) ↔ ∀ e ∈ es, ∃ y, e.record.year = .ok y := by
  refine ⟨?_, fun hall => exists_hits fun _ _ _ => hall⟩
  rintro ⟨hs, hhits⟩ e he
  obtain ⟨o, ho⟩ := (hits_eq_ok_iff.1 hhits).1 e he
  rw [hit?_of_ne_nil (List.cons_ne_nil t ts), map_eq_ok_iff] at ho
  obtain ⟨found, hfound, -⟩ := ho
  obtain ⟨first, hfirst, -⟩ := bind_eq_ok_iff.1 hfound
  exact exists_year_of_ofToken h hfirst

end Tokens

/-! ## Libraries -/

section Libraries

variable {library : List Record} {P : Record → Prop}

theorem forall_entries_iff : (∀ e ∈ entries library, P e.record) ↔ ∀ r ∈ library, P r := by
  constructor
  · intro h r hr
    obtain ⟨i, hi⟩ := List.mem_iff_getElem?.1 hr
    exact h ⟨i, r⟩ (mem_entries_iff.2 hi)
  · exact fun h e he => h _ (List.mem_iff_getElem?.2 ⟨_, mem_entries_iff.1 he⟩)

/-- **A library can be searched for every text unless a year is illegible.**
Let years that are integers have numerals. Whatever is searched for is found,
and what is found is ranked, just when no record has an illegible year. In each
record it is the first date part that decides on the year, and any that stands
behind numbers alone on the whole date. -/
theorem exists_ranked_hits_iff
    (h : ∀ r ∈ library, ∀ part ∈ r.rawDateParts.head?, part.Writable) :
    ((∀ query, ∃ hs, hits (tokenize query) (entries library) = .ok hs ∧
        ∃ ranked, Order.sortByRelevance (·.strength) (·.entry.record) hs = .ok ranked) ↔
      ∀ r ∈ library, ∀ part ∈ r.rawDateParts.head?, ¬ part.Illegible) ∧
    ∀ r ∈ library,
      ((∃ y, r.year = .ok y) ↔ ∀ part ∈ r.rawDateParts.head?, ¬ part.Illegible) ∧
      ((∃ ns, r.dateParts = .ok ns) ↔ ¬ Record.MeetsIllegible r.rawDateParts) := by
  have hyears : (∀ r ∈ library, ∃ y, r.year = .ok y) ↔
      ∀ r ∈ library, ∀ part ∈ r.rawDateParts.head?, ¬ part.Illegible :=
    forall₂_congr fun r hr => Record.exists_year_iff (h r hr)
  refine ⟨?_, fun r hr => ⟨Record.exists_year_iff (h r hr), Record.exists_dateParts_iff⟩⟩
  rw [← hyears, ← forall_entries_iff]
  constructor
  · intro hall
    -- a search for a year alone looks at the year of every record
    have htokens : tokenize "year:0" = [⟨"year:0", "0", some .year, false⟩] := by decide +kernel
    obtain ⟨hs, hhits, -⟩ := hall "year:0"
    rw [htokens] at hhits
    exact (exists_hits_iff (by simp [AsksYear])).1 ⟨hs, hhits⟩
  · intro hall query
    have hhits : ∃ hs, hits (tokenize query) (entries library) = .ok hs :=
      exists_hits fun _ _ _ => hall
    obtain ⟨hs, hhits⟩ := hhits
    refine ⟨hs, hhits, Order.exists_sortByRelevance_eq_ok fun hit hmem => ?_⟩
    exact hall _ (hit?_of_mem hhits hmem).1

/-- A year among digits, with no month behind it that can be read, a year that
is no number, and no date at all. -/
def legibleYears : List Record :=
  [⟨[("issued", .obj [("date-parts", .arr [.arr [.str " 2020 ", .str "²"]])])]⟩,
    ⟨[("issued", .obj [("date-parts", .arr [.arr [.str "MMXX"]])])]⟩, ⟨[]⟩]

theorem exists_ranked_hits_legibleYears :
    (∀ r ∈ legibleYears, ∀ part ∈ r.rawDateParts.head?, part.Writable) ∧
      (∀ query, ∃ hs, hits (tokenize query) (entries legibleYears) = .ok hs ∧
        ∃ ranked, Order.sortByRelevance (·.strength) (·.entry.record) hs = .ok ranked) := by
  have hfirst : ∀ r ∈ legibleYears, ∀ part ∈ r.rawDateParts.head?,
      part = .str " 2020 " ∨ part = .str "MMXX" := by
    simp only [legibleYears, List.forall_mem_cons]
    exact ⟨fun _ h => .inl (Option.some.inj h).symm, fun _ h => .inr (Option.some.inj h).symm,
      (fun _ h => nomatch h), List.forall_mem_nil _⟩
  have hwritable : ∀ r ∈ legibleYears, ∀ part ∈ r.rawDateParts.head?, part.Writable := by
    intro r hr part hpart n hn
    rcases hfirst r hr part hpart with rfl | rfl <;> cases hn
  refine ⟨hwritable, (exists_ranked_hits_iff hwritable).1.2 fun r hr part hpart => ?_⟩
  rw [← exists_datePart?_iff]
  rcases hfirst r hr part hpart with rfl | rfl
  · exact ⟨some 2020, rfl⟩
  · exact ⟨none, rfl⟩

/-- A record whose year is a digit set above the line. -/
def raisedYear : Record :=
  ⟨[("issued", .obj [("date-parts", .arr [.arr [.str "²"]])])]⟩

/-- Its year looks like a number and is none, which no search for a free text
gets past. -/
theorem hits_raisedYear :
    (∀ part ∈ raisedYear.rawDateParts.head?, part.Writable) ∧
      raisedYear.year = .error (.notNumeral 10 "²") ∧
      raisedYear.dateParts = .error (.notNumeral 10 "²") ∧
      hits (tokenize "x") (entries [raisedYear]) = .error (.notNumeral 10 "²") := by
  have htokens : tokenize "x" = [⟨"x", "x", none, false⟩] := by decide +kernel
  have hwritable : ∀ part ∈ raisedYear.rawDateParts.head?, part.Writable := by
    intro part hpart n hn
    obtain rfl : Json.str "²" = part := Option.some.inj hpart
    cases hn
  rw [htokens]
  exact ⟨hwritable, rfl, rfl, rfl⟩

end Libraries

end Bibliography.Match
