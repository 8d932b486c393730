import Bibliography.Proofs.Match.Table
import Bibliography.Proofs.Text.Lowering
/-!
# The texts of a record

`Holds` says which texts a record has in the field that a query names. What
such a text contains is found there (`exists_find_of_contains`), and so is the
text itself (`exists_find_self`), whatever characters it is made of.
-/

namespace Bibliography.Match

open Query (Field)

/-- **A text that a record has in a field of a query.** -/
inductive Holds (r : Record) : Field → String → Prop
  /-- The title. -/
  | title {t : String} : r.get? "title" = some (.str t) → Holds r .title t
  /-- The names of the authors. -/
  | author : Holds r .author r.authorText
  /-- A keyword. -/
  | keyword {items : List Json} {t : String} :
      r.get? "keyword" = some (.arr items) → .str t ∈ items → Holds r .keyword t
  /-- A tag. -/
  | tag {custom : Json.Members} {items : List Json} {t : String} :
      r.get? "custom" = some (.obj custom) → Json.Members.get? "tags" custom = some (.arr items) →
      .str t ∈ items → Holds r .tag t
  /-- The address. -/
  | url {t : String} : r.get? "URL" = some (.str t) → Holds r .url t
  /-- An additional address. -/
  | additionalUrl {custom : Json.Members} {urls : List Json} {t : String} :
      r.get? "custom" = some (.obj custom) →
      Json.Members.get? "additional_urls" custom = some (.arr urls) → .str t ∈ urls →
      Holds r .url t
  /-- An identifier. -/
  | doi {t : String} : r.get? "DOI" = some (.str t) → Holds r .doi t
  | pmid {t : String} : r.get? "PMID" = some (.str t) → Holds r .pmid t
  | pmcid {t : String} : r.get? "PMCID" = some (.str t) → Holds r .pmcid t
  /-- The year, where it can be told. -/
  | year {y : String} : r.year = .ok y → Holds r .year y

/-- The fields whose texts are searched for what they contain. -/
def containingFields : List Field :=
  [.title, .author, .keyword, .tag]

section Fields

variable {r : Record} {f : Field} {t v : String} {items : List Json} {token : Query.Token}

/-- Every text contains itself. -/
theorem contains_self : contains t t = true :=
  Text.isFoundIn_self

/-- Where an item of an array contains the value, some element is found. -/
theorem exists_findElement (field : String) {o : Option Json} (hget : o = some (.arr items))
    (hmem : .str t ∈ items) (hcontains : contains v t = true) :
    ∃ text, Rule.findElement field v (((o.bind Json.arr?).getD []).filterMap Json.str?) =
      some ⟨field, .inPart, text⟩ := by
  have htext : t ∈ ((o.bind Json.arr?).getD []).filterMap Json.str? := by
    rw [hget]
    exact List.mem_filterMap.2 ⟨_, hmem, rfl⟩
  obtain ⟨text, hfirst⟩ := Option.isSome_iff_exists.1 (List.find?_isSome.2 ⟨t, htext, hcontains⟩)
  exact ⟨text, by rw [Rule.findElement, hfirst, Option.map_some]⟩

/-- **What a text contains is found in its field.** -/
theorem exists_find_of_contains (h : Holds r f t) (hf : f ∈ containingFields)
    (hcontains : contains v t = true) :
    ∃ text, (Rule.ofField f).find v r = .ok (some ⟨f.name, .inPart, text⟩) := by
  cases h with
  | title hget =>
    have hstr := Record.str?_eq_some_iff.2 hget
    exact ⟨t, congrArg Except.ok (findText_eq_some_iff.2 ⟨t, hstr, hcontains, rfl⟩)⟩
  | author => exact ⟨_, congrArg Except.ok (findText_eq_some_iff.2 ⟨_, rfl, hcontains, rfl⟩)⟩
  | keyword hget hmem =>
    obtain ⟨text, hfound⟩ := exists_findElement "keyword" hget hmem hcontains
    exact ⟨text, congrArg Except.ok hfound⟩
  | tag hcustom hget hmem =>
    have htags := Record.custom?_eq_some_iff.2 ⟨_, hcustom, hget⟩
    obtain ⟨text, hfound⟩ := exists_findElement "tag" htags hmem hcontains
    exact ⟨text, congrArg Except.ok hfound⟩
  | url _ | additionalUrl _ _ _ | doi _ | pmid _ | pmcid _ | year _ =>
    simp [containingFields] at hf

/-- **Every text of a record is found in its field.** -/
theorem exists_find_self (h : Holds r f t) : ∃ m, (Rule.ofField f).find t r = .ok (some m) := by
  by_cases hf : f ∈ containingFields
  · obtain ⟨text, hfound⟩ := exists_find_of_contains h hf contains_self
    exact ⟨_, hfound⟩
  cases h with
  | title _ | author | keyword _ _ | tag _ _ _ => simp [containingFields] at hf
  | url hget => exact ⟨_, congrArg Except.ok (findAddress_eq_some_iff.2 (.inl ⟨hget, rfl⟩))⟩
  | additionalUrl hcustom hget hmem =>
    by_cases hurl : r.get? "URL" = some (.str t)
    · exact ⟨_, congrArg Except.ok (findAddress_eq_some_iff.2 (.inl ⟨hurl, rfl⟩))⟩
    · have hurls := Record.custom?_eq_some_iff.2 ⟨_, hcustom, hget⟩
      exact ⟨_, congrArg Except.ok
        (findAddress_eq_some_iff.2 (.inr ⟨hurl, ⟨_, hurls, hmem⟩, rfl⟩))⟩
  | doi hget | pmid hget | pmcid hget =>
    exact ⟨_, congrArg Except.ok (findIdentifier_eq_some_iff.2 ⟨t, hget, rfl, rfl⟩)⟩
  | year hy => exact ⟨⟨"year", .exact, t⟩, by simp [Rule.ofField, Rule.find, hy, Except.map]⟩

/-- A token in one field finds what the field's rule finds. -/
theorem ofToken_field {o : Option Found} (hf : token.field = some f)
    (hfound : (Rule.ofField f).find token.value r = .ok o) : ofToken token r = .ok o.toList := by
  cases o <;> simp [ofToken, hf, hfound, bind, Except.bind, pure, Except.pure]

end Fields

end Bibliography.Match
