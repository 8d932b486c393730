import Bibliography.Match.Hit
/-!
# What a token finds

`Justified` is the table of the rules, read off the record as it stands: for
each field, when a value is found in it, how strongly, and with which text.
`exists_ofToken` says that matching a token finds just what the table
justifies in the token's fields, and nothing twice. Each part of the table
meets its rule in one law (`found?_eq_some_iff`).
-/

namespace Bibliography

namespace Record

variable {r : Record} {field name s : String} {j : Json}

theorem str?_eq_some_iff : r.str? field = some s ↔ r.get? field = some (.str s) := by
  unfold str?
  cases r.get? field with
  | none => simp
  | some j => cases j <;> simp [Json.str?]

/-- Extensions are read from an object alone. -/
theorem custom?_eq_some_iff :
    r.custom? name = some j ↔
      ∃ members, r.get? "custom" = some (.obj members) ∧ Json.Members.get? name members = some j := by
  unfold custom? custom
  cases r.get? "custom" with
  | none => simp [Json.Members.get?]
  | some k => cases k <;> simp [Json.obj?, Json.Members.get?]

end Record

namespace Match

/-! ## The table -/

/-- The fields whose whole text is an identifier. -/
def identifierFields : List String :=
  ["id", "DOI", "PMID", "PMCID"]

/-- The fields that are searched as texts, besides the authors. -/
def textFields : List String :=
  ["title", "container-title", "publisher", "abstract"]

/-- The text is the first among the items to contain the value. Items that
are no texts do not count. -/
def FirstContaining (v : String) (items : List Json) (text : String) : Prop :=
  ∃ before after, items = before ++ .str text :: after ∧ contains v text = true ∧
    ∀ s, .str s ∈ before → contains v s = false

/-- **The table of the rules**: what may be found of a value in a record. -/
inductive Justified (r : Record) (v : String) : Found → Prop
  /-- The address is the value as it stands. -/
  | url : r.get? "URL" = some (.str v) → Justified r v ⟨"URL", .exact, v⟩
  /-- The address is not, but an additional one is. -/
  | additionalUrl {custom : Json.Members} {urls : List Json} :
      r.get? "URL" ≠ some (.str v) →
      r.get? "custom" = some (.obj custom) →
      Json.Members.get? "additional_urls" custom = some (.arr urls) → .str v ∈ urls →
      Justified r v ⟨"custom.additional_urls", .exact, v⟩
  /-- The year is the value. -/
  | year : r.year = .ok v → Justified r v ⟨"year", .exact, v⟩
  /-- An identifier is the value as a whole, in any case. -/
  | identifier {field text : String} :
      field ∈ identifierFields → r.get? field = some (.str text) →
      Text.upper text.toList = Text.upper v.toList → Justified r v ⟨field, .exact, text⟩
  /-- The first keyword that contains the value. -/
  | keyword {items : List Json} {text : String} :
      r.get? "keyword" = some (.arr items) → FirstContaining v items text →
      Justified r v ⟨"keyword", .inPart, text⟩
  /-- The first tag that does. -/
  | tag {custom : Json.Members} {items : List Json} {text : String} :
      r.get? "custom" = some (.obj custom) →
      Json.Members.get? "tags" custom = some (.arr items) → FirstContaining v items text →
      Justified r v ⟨"tag", .inPart, text⟩
  /-- The authors' names contain it. -/
  | author : contains v r.authorText = true → Justified r v ⟨"author", .inPart, r.authorText⟩
  /-- A text contains it. -/
  | text {field t : String} :
      field ∈ textFields → r.get? field = some (.str t) → contains v t = true →
      Justified r v ⟨field, .inPart, t⟩

/-- The fields of a record that a rule looks at. -/
def Rule.fields : Rule → List String
  | .year => ["year"]
  | .url => ["URL", "custom.additional_urls"]
  | .keyword => ["keyword"]
  | .tag => ["tag"]
  | .id => ["id"]
  | .title => ["title"]
  | .author => ["author"]
  | .containerTitle => ["container-title"]
  | .publisher => ["publisher"]
  | .doi => ["DOI"]
  | .pmid => ["PMID"]
  | .pmcid => ["PMCID"]
  | .abstract => ["abstract"]

/-- The fields of a record that a query's field stands for. -/
def recordFields : Query.Field → List String
  | .author => ["author"]
  | .title => ["title"]
  | .year => ["year"]
  | .doi => ["DOI"]
  | .pmid => ["PMID"]
  | .pmcid => ["PMCID"]
  | .url => ["URL", "custom.additional_urls"]
  | .keyword => ["keyword"]
  | .tag => ["tag"]

/-! ## The rules, one by one -/

/-- What a rule finds; nothing where the year cannot be told. -/
def Rule.found? (v : String) (r : Record) (rule : Rule) : Option Found :=
  match rule.find v r with
  | .ok found => found
  | .error _ => none

section Rules

variable {r : Record} {v y field name : String} {m : Found} {rule rule' : Rule} {items : List Json}

/-- What holds of the items of an array and of no empty list needs the
array. -/
theorem getD_arr?_iff (P : List Json → Prop) (hnil : ¬ P []) {o : Option Json} :
    P ((o.bind Json.arr?).getD []) ↔ ∃ items, o = some (.arr items) ∧ P items := by
  cases o with
  | none => simpa using hnil
  | some j => cases j <;> simp [Json.arr?, hnil]

/-- The first item is it, or does not contain the value and another is. -/
theorem firstContaining_cons {item : Json} :
    FirstContaining v (item :: items) name ↔
      item = .str name ∧ contains v name = true ∨
        (∀ s, item = .str s → contains v s = false) ∧ FirstContaining v items name := by
  constructor
  · rintro ⟨before, after, hsplit, hname, hbefore⟩
    cases before with
    | nil => exact .inl ⟨(List.cons.inj hsplit).1, hname⟩
    | cons first before =>
      obtain ⟨rfl, rfl⟩ := List.cons.inj hsplit
      refine .inr ⟨fun s hs => hbefore s (hs ▸ List.mem_cons_self), before, after, rfl, hname, ?_⟩
      exact fun s hs => hbefore s (List.mem_cons_of_mem _ hs)
  · rintro (⟨rfl, hname⟩ | ⟨hitem, before, after, rfl, hname, hbefore⟩)
    · exact ⟨[], items, rfl, hname, by simp⟩
    · refine ⟨item :: before, after, rfl, hname, fun s hs => ?_⟩
      rcases List.mem_cons.1 hs with rfl | hs
      · exact hitem s rfl
      · exact hbefore s hs

theorem not_firstContaining_nil : ¬ FirstContaining v [] name := by
  simp [FirstContaining]

theorem firstContaining_getD_iff {o : Option Json} :
    FirstContaining v ((o.bind Json.arr?).getD []) name ↔
      ∃ items, o = some (.arr items) ∧ FirstContaining v items name :=
  getD_arr?_iff (FirstContaining v · name) not_firstContaining_nil

theorem firstContaining_iff :
    FirstContaining v items name ↔ (items.filterMap Json.str?).find? (contains v) = some name := by
  induction items with
  | nil => simp [not_firstContaining_nil]
  | cons item items ih =>
    rw [firstContaining_cons, ih]
    cases item with
    | str s =>
      have hfilter : (Json.str s :: items).filterMap Json.str? = s :: items.filterMap Json.str? := rfl
      rw [hfilter, List.find?_cons]
      cases hs : contains v s with
      | true =>
        constructor
        · rintro (⟨h, -⟩ | ⟨hno, -⟩)
          · cases h
            rfl
          · exact absurd (hno s rfl) (by simp [hs])
        · intro h
          cases h
          exact .inl ⟨rfl, hs⟩
      | false =>
        constructor
        · rintro (⟨h, hname⟩ | ⟨-, h⟩)
          · cases h
            exact absurd hname (by simp [hs])
          · exact h
        · exact fun h => .inr ⟨fun s' hs' => by cases hs'; exact hs, h⟩
    | _ => simp [Json.str?]

theorem findIdentifier_eq_some_iff :
    Rule.findIdentifier field v r = some m ↔
      ∃ text, r.get? field = some (.str text) ∧ Text.upper text.toList = Text.upper v.toList ∧
        ⟨field, .exact, text⟩ = m := by
  simp only [Rule.findIdentifier, Option.bind_eq_some_iff, Record.str?_eq_some_iff, sameIdentifier,
    beq_iff_eq, Option.ite_none_right_eq_some, Option.some.injEq]

theorem findText_eq_some_iff {text : Option String} :
    Rule.findText field v text = some m ↔
      ∃ t, text = some t ∧ contains v t = true ∧ ⟨field, .inPart, t⟩ = m := by
  simp only [Rule.findText, Option.bind_eq_some_iff, Option.ite_none_right_eq_some,
    Option.some.injEq]

theorem findElement_eq_some_iff :
    Rule.findElement field v (items.filterMap Json.str?) = some m ↔
      ∃ text, FirstContaining v items text ∧ ⟨field, .inPart, text⟩ = m := by
  simp only [Rule.findElement, Option.map_eq_some_iff, firstContaining_iff]

theorem mem_strings_urls_iff :
    v ∈ r.strings "custom.additional_urls" ↔
      ∃ urls, r.custom? "additional_urls" = some (.arr urls) ∧ .str v ∈ urls := by
  have hstrings : r.strings "custom.additional_urls" =
      (((r.custom? "additional_urls").bind Json.arr?).getD []).filterMap Json.str? := rfl
  have hstr : ∀ j : Json, j.str? = some v ↔ j = .str v := by
    intro j
    cases j <;> simp [Json.str?]
  rw [hstrings, List.mem_filterMap]
  simp only [hstr, exists_eq_right]
  exact getD_arr?_iff (.str v ∈ ·) List.not_mem_nil

theorem findAddress_eq_some_iff :
    Rule.findAddress v r = some m ↔
      r.get? "URL" = some (.str v) ∧ ⟨"URL", .exact, v⟩ = m ∨
        r.get? "URL" ≠ some (.str v) ∧
          (∃ urls, r.custom? "additional_urls" = some (.arr urls) ∧ .str v ∈ urls) ∧
          ⟨"custom.additional_urls", .exact, v⟩ = m := by
  unfold Rule.findAddress
  rw [← mem_strings_urls_iff, ← List.contains_iff_mem]
  by_cases hurl : r.str? "URL" = some v
  · have hget := Record.str?_eq_some_iff.1 hurl
    simp [hurl, hget]
  · have hget : r.get? "URL" ≠ some (.str v) := fun h => hurl (Record.str?_eq_some_iff.2 h)
    simp [hurl, hget]

/-! ## The table and the rules -/

theorem find_eq_ok (hy : r.year = .ok y) (rule : Rule) : rule.find v r = .ok (rule.found? v r) := by
  cases rule with
  | year => simp [Rule.found?, Rule.find, hy, Except.map]
  | _ => rfl

theorem justified_of_findIdentifier (field : String) (hfield : field ∈ identifierFields)
    (h : Rule.findIdentifier field v r = some m) : Justified r v m ∧ m.field ∈ [field] := by
  obtain ⟨text, hget, hsame, rfl⟩ := findIdentifier_eq_some_iff.1 h
  exact ⟨.identifier hfield hget hsame, List.mem_singleton_self _⟩

theorem justified_of_findText (field : String) (hfield : field ∈ textFields)
    (h : Rule.findText field v (r.str? field) = some m) : Justified r v m ∧ m.field ∈ [field] := by
  obtain ⟨t, hget, hcontains, rfl⟩ := findText_eq_some_iff.1 h
  exact ⟨.text hfield (Record.str?_eq_some_iff.1 hget) hcontains, List.mem_singleton_self _⟩

/-- **What a rule finds stands in the table**, under one of its fields. -/
theorem Rule.find_sound (h : rule.find v r = .ok (some m)) :
    Justified r v m ∧ m.field ∈ rule.fields := by
  cases rule with
  | year =>
    cases hy : r.year with
    | error => simp [Rule.find, hy, Except.map] at h
    | ok y =>
      simp only [Rule.find, hy, Except.map, Except.ok.injEq, Option.ite_none_right_eq_some,
        Option.some.injEq] at h
      obtain ⟨rfl, rfl⟩ := h
      exact ⟨.year hy, by simp [Rule.fields]⟩
  | url =>
    rcases findAddress_eq_some_iff.1 (Except.ok.inj h) with
      ⟨hurl, rfl⟩ | ⟨hurl, ⟨urls, hurls, hmem⟩, rfl⟩
    · exact ⟨.url hurl, by simp [Rule.fields]⟩
    · obtain ⟨members, hcustom, hurls⟩ := Record.custom?_eq_some_iff.1 hurls
      exact ⟨.additionalUrl hurl hcustom hurls hmem, by simp [Rule.fields]⟩
  | keyword =>
    obtain ⟨text, hfirst, rfl⟩ := findElement_eq_some_iff.1 (Except.ok.inj h)
    obtain ⟨items, hitems, hfirst⟩ := firstContaining_getD_iff.1 hfirst
    exact ⟨.keyword hitems hfirst, by simp [Rule.fields]⟩
  | tag =>
    obtain ⟨text, hfirst, rfl⟩ := findElement_eq_some_iff.1 (Except.ok.inj h)
    obtain ⟨items, hitems, hfirst⟩ := firstContaining_getD_iff.1 hfirst
    obtain ⟨members, hcustom, hitems⟩ := Record.custom?_eq_some_iff.1 hitems
    exact ⟨.tag hcustom hitems hfirst, by simp [Rule.fields]⟩
  | author =>
    obtain ⟨t, ht, hcontains, rfl⟩ := findText_eq_some_iff.1 (Except.ok.inj h)
    cases ht
    exact ⟨.author hcontains, by simp [Rule.fields]⟩
  | id => exact justified_of_findIdentifier "id" (by decide) (Except.ok.inj h)
  | doi => exact justified_of_findIdentifier "DOI" (by decide) (Except.ok.inj h)
  | pmid => exact justified_of_findIdentifier "PMID" (by decide) (Except.ok.inj h)
  | pmcid => exact justified_of_findIdentifier "PMCID" (by decide) (Except.ok.inj h)
  | title => exact justified_of_findText "title" (by decide) (Except.ok.inj h)
  | containerTitle => exact justified_of_findText "container-title" (by decide) (Except.ok.inj h)
  | publisher => exact justified_of_findText "publisher" (by decide) (Except.ok.inj h)
  | abstract => exact justified_of_findText "abstract" (by decide) (Except.ok.inj h)

theorem Rule.found?_sound (hy : r.year = .ok y) (h : rule.found? v r = some m) :
    Justified r v m ∧ m.field ∈ rule.fields :=
  Rule.find_sound (by rw [find_eq_ok hy, h])

/-- **What stands in the table is found by a rule.** -/
theorem Justified.exists_found? (h : Justified r v m) : ∃ rule : Rule, rule.found? v r = some m := by
  cases h with
  | url hurl => exact ⟨.url, findAddress_eq_some_iff.2 (.inl ⟨hurl, rfl⟩)⟩
  | additionalUrl hurl hcustom hurls hmem =>
    have hurls' := Record.custom?_eq_some_iff.2 ⟨_, hcustom, hurls⟩
    exact ⟨.url, findAddress_eq_some_iff.2 (.inr ⟨hurl, ⟨_, hurls', hmem⟩, rfl⟩)⟩
  | year hyear => exact ⟨.year, by simp [Rule.found?, Rule.find, hyear, Except.map]⟩
  | @identifier field text hfield hget hsame =>
    have hfound := findIdentifier_eq_some_iff.2 ⟨text, hget, hsame, rfl⟩
    simp only [identifierFields, List.mem_cons, List.not_mem_nil, or_false] at hfield
    rcases hfield with rfl | rfl | rfl | rfl
    · exact ⟨.id, hfound⟩
    · exact ⟨.doi, hfound⟩
    · exact ⟨.pmid, hfound⟩
    · exact ⟨.pmcid, hfound⟩
  | keyword hitems hfirst =>
    exact ⟨.keyword, findElement_eq_some_iff.2 ⟨_, firstContaining_getD_iff.2 ⟨_, hitems, hfirst⟩, rfl⟩⟩
  | tag hcustom hitems hfirst =>
    have hitems' := Record.custom?_eq_some_iff.2 ⟨_, hcustom, hitems⟩
    exact ⟨.tag, findElement_eq_some_iff.2 ⟨_, firstContaining_getD_iff.2 ⟨_, hitems', hfirst⟩, rfl⟩⟩
  | author hcontains => exact ⟨.author, findText_eq_some_iff.2 ⟨_, rfl, hcontains, rfl⟩⟩
  | @text field t hfield hget hcontains =>
    have hfound : Rule.findText field v (r.str? field) = some ⟨field, .inPart, t⟩ :=
      findText_eq_some_iff.2 ⟨t, Record.str?_eq_some_iff.2 hget, hcontains, rfl⟩
    simp only [textFields, List.mem_cons, List.not_mem_nil, or_false] at hfield
    rcases hfield with rfl | rfl | rfl | rfl
    · exact ⟨.title, hfound⟩
    · exact ⟨.containerTitle, hfound⟩
    · exact ⟨.publisher, hfound⟩
    · exact ⟨.abstract, hfound⟩

theorem find?_mem_fields : ∀ f ∈ rule.fields, Rule.all.find? (f ∈ ·.fields) = some rule := by
  cases rule <;> decide

/-- No two rules look at the same field. -/
theorem Rule.eq_of_mem_fields (h : field ∈ rule.fields) (h' : field ∈ rule'.fields) :
    rule = rule' := by
  have hfind := find?_mem_fields field h
  rw [find?_mem_fields field h'] at hfind
  exact (Option.some.inj hfind).symm

/-- **A rule finds just what the table has under its fields.** -/
theorem Rule.found?_eq_some_iff (hy : r.year = .ok y) :
    rule.found? v r = some m ↔ Justified r v m ∧ m.field ∈ rule.fields := by
  constructor
  · exact Rule.found?_sound hy
  · rintro ⟨hjustified, hfield⟩
    obtain ⟨rule', hfound⟩ := hjustified.exists_found?
    rw [Rule.eq_of_mem_fields hfield (Rule.found?_sound hy hfound).2, hfound]

end Rules

/-! ## A token -/

/-- The rules that a token asks, by its field. -/
def consulted : Option Query.Field → List Rule
  | some field => [Rule.ofField field]
  | none => Rule.all

section Tokens

variable {r : Record} {v y : String} {m : Found} {token : Query.Token} {rule : Rule}

theorem fields_ofField (field : Query.Field) : (Rule.ofField field).fields = recordFields field := by
  cases field <;> rfl

theorem ofToken_eq_ok (hy : r.year = .ok y) :
    ofToken token r = .ok ((consulted token.field).filterMap (Rule.found? token.value r)) := by
  have hfind : Rule.find token.value r = fun rule => pure (rule.found? token.value r) :=
    funext (find_eq_ok hy)
  unfold ofToken consulted
  rw [hfind]
  cases token.field <;> simp [List.mapM_pure, List.filterMap_map] <;> rfl

/-- No rule is asked twice. -/
theorem count_consulted_le (field : Option Query.Field) (rule : Rule) :
    (consulted field).count rule ≤ 1 := by
  cases field with
  | none => cases rule <;> decide
  | some field =>
    rw [consulted, List.count_singleton]
    split <;> omega

/-- What is justified in the fields that are asked for belongs to a rule
that is asked. -/
theorem exists_consulted_iff (hy : r.year = .ok y) {field : Option Query.Field} :
    (∃ rule ∈ consulted field, rule.found? v r = some m) ↔
      Justified r v m ∧ ∀ f ∈ field, m.field ∈ recordFields f := by
  constructor
  · rintro ⟨rule, hrule, hfound⟩
    obtain ⟨hjustified, hfield⟩ := rule.found?_sound hy hfound
    refine ⟨hjustified, fun f hf => ?_⟩
    cases hf
    rw [List.mem_singleton.1 hrule, fields_ofField] at hfield
    exact hfield
  · rintro ⟨hjustified, hfield⟩
    cases field with
    | none =>
      obtain ⟨rule, hfound⟩ := hjustified.exists_found?
      exact ⟨rule, by cases rule <;> decide, hfound⟩
    | some f =>
      refine ⟨_, List.mem_singleton_self _, (Rule.found?_eq_some_iff hy).2 ⟨hjustified, ?_⟩⟩
      rw [fields_ofField]
      exact hfield f rfl

/-- **What is found in the fields of a rule, that rule has found**: the fields
of the rules are apart. -/
theorem filter_fields_filterMap (hy : r.year = .ok y) (rules : List Rule) :
    (rules.filterMap (Rule.found? v r)).filter (·.field ∈ rule.fields) =
      (rules.filter (· == rule)).filterMap (Rule.found? v r) := by
  induction rules with
  | nil => rfl
  | cons first rules ih =>
    cases hfound : first.found? v r with
    | none =>
      rw [List.filterMap_cons_none hfound, ih, List.filter_cons]
      split
      · rw [List.filterMap_cons_none hfound]
      · rfl
    | some m =>
      have hfirst := (first.found?_sound hy hfound).2
      rw [List.filterMap_cons_some hfound, List.filter_cons, List.filter_cons, ih]
      by_cases hrule : first = rule
      · rw [if_pos (by simpa [← hrule] using hfirst), if_pos (by simpa using hrule),
          List.filterMap_cons_some hfound]
      · have hapart : m.field ∉ rule.fields := fun h => hrule (Rule.eq_of_mem_fields hfirst h)
        rw [if_neg (by simpa using hapart), if_neg (by simpa using hrule)]

/-- Of the rules asked, one alone finds anything in its fields. -/
theorem length_filter_fields_le (hy : r.year = .ok y) (rules : List Rule) :
    ((rules.filterMap (Rule.found? v r)).filter (·.field ∈ rule.fields)).length ≤ rules.count rule := by
  rw [filter_fields_filterMap hy, List.count_eq_length_filter]
  exact List.length_filterMap_le _ _

/-- **A token finds what the table has for it.** In a record whose year can
be told, matching a token gives those findings that are justified for its
value and lie in the fields that its field stands for; to each rule there is
at most one of them, and to a token with a field one in all. -/
theorem exists_ofToken (token : Query.Token) (hy : r.year = .ok y) :
    ∃ found, ofToken token r = .ok found ∧
      (∀ m, m ∈ found ↔ Justified r token.value m ∧ ∀ f ∈ token.field, m.field ∈ recordFields f) ∧
      (∀ rule : Rule, (found.filter (·.field ∈ rule.fields)).length ≤ 1) ∧
      (token.field ≠ none → found.length ≤ 1) := by
  refine ⟨_, ofToken_eq_ok hy, fun m => ?_, fun rule => ?_, fun hfield => ?_⟩
  · rw [List.mem_filterMap]
    exact exists_consulted_iff hy
  · exact Nat.le_trans (length_filter_fields_le hy _) (count_consulted_le _ _)
  · obtain ⟨f, hf⟩ := Option.ne_none_iff_exists'.1 hfield
    rw [hf]
    exact Nat.le_trans (List.length_filterMap_le _ _) (Nat.le_refl 1)

/-- A record with an identifier, keywords that are not all texts, and a year
in digits. -/
def mixedRecord : Record :=
  ⟨[("DOI", .str "10.1/X"), ("keyword", .arr [.int 7, .str "mRNA", .str "RNA"]),
    ("issued", .obj [("date-parts", .arr [.arr [.str " 2020 "]])])]⟩

theorem exists_ofToken_mixedRecord :
    mixedRecord.year = .ok "2020" ∧
      ∃ found, ofToken ⟨"RNA", "RNA", none, false⟩ mixedRecord = .ok found ∧
        (∀ m, m ∈ found ↔
          Justified mixedRecord "RNA" m ∧ ∀ f ∈ (none : Option Query.Field), m.field ∈ recordFields f) ∧
        (∀ rule : Rule, (found.filter (·.field ∈ rule.fields)).length ≤ 1) ∧
        ((none : Option Query.Field) ≠ none → found.length ≤ 1) :=
  ⟨by rfl, exists_ofToken ⟨"RNA", "RNA", none, false⟩ (by rfl)⟩

end Tokens

end Match

end Bibliography
