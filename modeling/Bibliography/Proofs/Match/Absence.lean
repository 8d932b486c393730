import Bibliography.Proofs.Match.OwnText
import Bibliography.Proofs.Fallible
/-!
# Fields that a record lacks

`Stands` says which texts a record has in which of its fields, and a field that
holds none is lacking. Whatever is found stands there (`Justified.stands`), with one
exception: a record without authors has an empty text in the place of their names,
and that contains every value of which the search form leaves nothing
(`contains_empty_iff`). `exists_found_of_lacks_iff` says just when this happens.
-/

namespace Bibliography.Match

/-- **A text that a record has in one of its fields.** -/
inductive Stands (r : Record) : String → String → Prop
  /-- The names of the authors, if one has a name. -/
  | author : r.authorText ≠ "" → Stands r "author" r.authorText
  /-- A field that is a text. -/
  | text {field t : String} :
      field ∈ "URL" :: identifierFields ++ textFields → r.get? field = some (.str t) →
      Stands r field t
  /-- A keyword. -/
  | keyword {items : List Json} {t : String} :
      r.get? "keyword" = some (.arr items) → .str t ∈ items → Stands r "keyword" t
  /-- A tag. -/
  | tag {custom : Json.Members} {items : List Json} {t : String} :
      r.get? "custom" = some (.obj custom) → Json.Members.get? "tags" custom = some (.arr items) →
      .str t ∈ items → Stands r "tag" t
  /-- An additional address. -/
  | additionalUrl {custom : Json.Members} {urls : List Json} {t : String} :
      r.get? "custom" = some (.obj custom) →
      Json.Members.get? "additional_urls" custom = some (.arr urls) → .str t ∈ urls →
      Stands r "custom.additional_urls" t
  /-- The year, which always stands for something. -/
  | year {y : String} : r.year = .ok y → Stands r "year" y

/-- A record lacks a field in which no text stands. -/
def Lacks (r : Record) (field : String) : Prop :=
  ∀ t, ¬ Stands r field t

section Lacking

variable {r : Record} {v field : String} {m : Found} {token : Query.Token} {found : List Found}

/-- A value is found in an empty text when its search form is empty. -/
theorem contains_empty_iff : contains v "" = true ↔ Text.searchForm v.toList = [] := by
  have hempty : Text.searchForm "".toList = [] := by decide +kernel
  have hlower : Text.lower [] = [] := rfl
  rw [contains, hempty, Text.isFoundIn, hlower]
  split
  · simp [Text.occursIn]
  · simp [Text.occursIn, Text.lower_eq_nil_iff]

theorem FirstContaining.mem {items : List Json} {t : String} (h : FirstContaining v items t) :
    .str t ∈ items := by
  obtain ⟨before, after, rfl, -, -⟩ := h
  simp

/-- **What is found stands in its field**, unless it is the empty text of missing
authors. -/
theorem Justified.stands (h : Justified r v m) :
    Stands r m.field m.text ∨ m.field = "author" ∧ contains v "" = true := by
  cases h with
  | url hurl => exact .inl (.text List.mem_cons_self hurl)
  | additionalUrl _ hcustom hurls hmem => exact .inl (.additionalUrl hcustom hurls hmem)
  | year hyear => exact .inl (.year hyear)
  | identifier hfield hget =>
    exact .inl (.text (List.mem_append_left _ (List.mem_cons_of_mem _ hfield)) hget)
  | keyword hitems hfirst => exact .inl (.keyword hitems hfirst.mem)
  | tag hcustom hitems hfirst => exact .inl (.tag hcustom hitems hfirst.mem)
  | author hcontains =>
    by_cases hempty : r.authorText = ""
    · exact .inr ⟨rfl, hempty ▸ hcontains⟩
    · exact .inl (.author hempty)
  | text hfield hget => exact .inl (.text (List.mem_append_right _ hfield) hget)

/-- A record lacks authors when no author has a name. -/
theorem lacks_author_iff : Lacks r "author" ↔ r.authorText = "" := by
  constructor
  · exact fun h => Classical.byContradiction fun hne => h _ (.author hne)
  · intro hempty t h
    generalize hfield : "author" = field at h
    cases h with
    | author hne => exact hne hempty
    | text hmem => exact absurd (hfield ▸ hmem) (by decide)
    | keyword | tag | additionalUrl | year => exact absurd hfield (by decide)

/-- What a token finds is what the rules find that it asks. -/
theorem mem_of_ofToken_iff (h : ofToken token r = .ok found) :
    m ∈ found ↔ ∃ rule ∈ consulted token.field, rule.find token.value r = .ok (some m) := by
  obtain ⟨os, hos, hfound⟩ := bind_eq_ok_iff.1 h
  obtain rfl : os.filterMap id = found := Except.ok.inj hfound
  rw [mapM_eq_ok_iff] at hos
  calc m ∈ os.filterMap id
      ↔ Except.ok (some m) ∈ os.map (Except.ok (ε := NumeralError)) := by simp
    _ ↔ _ := by rw [← hos]; exact List.mem_map

theorem author_mem_consulted_iff {o : Option Query.Field} :
    Rule.author ∈ consulted o ↔ ∀ f ∈ o, f = .author := by
  cases o with
  | none => simp [consulted, Rule.all]
  | some f => cases f <;> simp [consulted, Rule.ofField]

/-- **In a field that the record lacks nothing is found**, but for missing authors:
these are found, as an empty text, by every token that looks for authors with a
value of which the search form leaves nothing. -/
theorem exists_found_of_lacks_iff (h : ofToken token r = .ok found) (hlacks : Lacks r field) :
    (∃ m ∈ found, m.field = field) ↔
      field = "author" ∧ Text.searchForm token.value.toList = [] ∧
        ∀ f ∈ token.field, f = .author := by
  rw [← contains_empty_iff, ← author_mem_consulted_iff]
  constructor
  · rintro ⟨m, hm, rfl⟩
    obtain ⟨rule, hrule, hfind⟩ := (mem_of_ofToken_iff h).1 hm
    obtain ⟨hjustified, hfield⟩ := Rule.find_sound hfind
    obtain ⟨hauthor, hcontains⟩ := hjustified.stands.resolve_left (hlacks m.text)
    -- the rule that looks at the authors is the only one to do so
    rw [hauthor] at hfield
    have heq : rule = .author := Rule.eq_of_mem_fields hfield (List.mem_singleton_self _)
    exact ⟨hauthor, hcontains, heq ▸ hrule⟩
  · rintro ⟨rfl, hcontains, hrule⟩
    have hempty := lacks_author_iff.1 hlacks
    refine ⟨⟨"author", .inPart, r.authorText⟩, (mem_of_ofToken_iff h).2 ⟨_, hrule, ?_⟩, rfl⟩
    exact congrArg Except.ok (findText_eq_some_iff.2 ⟨_, rfl, hempty ▸ hcontains, rfl⟩)

/-- The search form leaves nothing of a dash. -/
theorem searchForm_dash : Text.searchForm "-".toList = [] := by
  decide +kernel

/-- Beside a title a dash is found in the authors that are missing. -/
theorem exists_found_of_lacks_iff_dash :
    ∃ found, ofToken ⟨"-", "-", none, false⟩ ⟨[("title", .str "x")]⟩ = .ok found ∧
      Lacks ⟨[("title", .str "x")]⟩ "author" ∧
      ((∃ m ∈ found, m.field = "author") ↔
        "author" = "author" ∧ Text.searchForm "-".toList = [] ∧
          ∀ f ∈ (none : Option Query.Field), f = .author) ∧
      ∃ m ∈ found, m.field = "author" := by
  have hfound : ofToken ⟨"-", "-", none, false⟩ ⟨[("title", .str "x")]⟩ = .ok _ :=
    ofToken_eq_ok (y := "0000") rfl
  have hlacks : Lacks ⟨[("title", .str "x")]⟩ "author" := lacks_author_iff.2 rfl
  have hiff := exists_found_of_lacks_iff hfound hlacks
  exact ⟨_, hfound, hlacks, hiff, hiff.2 ⟨rfl, searchForm_dash, by simp⟩⟩

/-- So a record that has no fields at all is found. -/
theorem ofToken_missingAuthor :
    Lacks ⟨[]⟩ "author" ∧
      ofToken ⟨"author:-", "-", some .author, false⟩ ⟨[]⟩ = .ok [⟨"author", .inPart, ""⟩] := by
  have hcontains : contains "-" "" = true := contains_empty_iff.2 searchForm_dash
  refine ⟨lacks_author_iff.2 rfl,
    ofToken_field (o := some ⟨"author", .inPart, ""⟩) (f := .author) rfl ?_⟩
  exact congrArg Except.ok (findText_eq_some_iff.2 ⟨_, rfl, hcontains, rfl⟩)

end Lacking

end Bibliography.Match
