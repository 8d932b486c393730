import Bibliography.Calendar.Notations
import Bibliography.Proofs.Order.Relevance
import Bibliography.Proofs.Order.Unique
/-!
# The name that a record is sorted by

The name of an author that is shown starts with the family name or, without one, with the
literal name: `LedBy`, `name_of_ledBy`. A record is sorted by that name of its first
author, unless there is a family name that is empty. Shown, it counts as missing; sorted
by, it takes the place of the literal name (`sortAuthor_eq_iff_of_named`).
-/

namespace Bibliography

namespace Author

/-- **The name that an author is led by**: the family name or, without one, the literal
name. -/
inductive LedBy (author : Json) : String → Prop
  | family {name : String} :
      name ≠ "" → author.get? "family" = some (.str name) → LedBy author name
  | literal {name : String} :
      (∀ s, author.get? "family" = some (.str s) → s = "") →
      name ≠ "" → author.get? "literal" = some (.str name) → LedBy author name

section Names

variable {author : Json} {name name' s : String} {key : String}

/-- A part that is not empty stands in the name. -/
theorem part_eq_iff (hne : s ≠ "") : part author key = s ↔ author.get? key = some (.str s) :=
  Order.getD_str?_iff hne

theorem part_eq_empty (h : ∀ s, author.get? key = some (.str s) → s = "") :
    part author key = "" := by
  by_contra hne
  exact hne (h _ ((part_eq_iff hne).1 rfl))

theorem LedBy.ne_empty (h : LedBy author name) : name ≠ "" := by
  cases h with
  | family hne _ => exact hne
  | literal _ hne _ => exact hne

/-- An author with a family name or a literal name is led by one. -/
theorem exists_ledBy (h : ∃ s, s ≠ "" ∧
    (author.get? "family" = some (.str s) ∨ author.get? "literal" = some (.str s))) :
    ∃ name, LedBy author name := by
  obtain ⟨s, hne, hs⟩ := h
  by_cases hfamily : ∀ t, author.get? "family" = some (.str t) → t = ""
  · rcases hs with hs | hs
    · exact absurd (hfamily s hs) hne
    · exact ⟨s, .literal hfamily hne hs⟩
  · simp only [Classical.not_forall] at hfamily
    obtain ⟨t, ht, hne'⟩ := hfamily
    exact ⟨t, .family hne' ht⟩

/-- **The name that is shown starts with the one that the author is led by.** A given name
may follow it. -/
theorem name_of_ledBy (h : LedBy author name) :
    Author.name author = name ∨
      ∃ given, author.get? "given" = some (.str given) ∧
        Author.name author = name ++ " " ++ given := by
  cases h with
  | family hne hfamily =>
    rw [Author.name, (part_eq_iff hne).2 hfamily, if_neg (by simpa using hne)]
    split
    · exact .inl rfl
    · next hgiven =>
      have hne' : part author "given" ≠ "" := by simpa using hgiven
      exact .inr ⟨_, (part_eq_iff hne').1 rfl, rfl⟩
  | literal hnone hne hliteral =>
    rw [Author.name, part_eq_empty hnone, (part_eq_iff hne).2 hliteral]
    exact .inl ((if_pos rfl).trans (if_neg (by simpa using hne)))

end Names

end Author

open Author (LedBy)

namespace Order

section Sorting

variable {r : Record} {author : Json} {others : List Json} {name : String}

theorem sortAuthor_of_items (h : r.items "author" = author :: others) :
    r.sortAuthor = ((author.get? "family").bind Json.str?).getD
      (((author.get? "literal").bind Json.str?).getD "Anonymous") := by
  rw [Record.sortAuthor, h]
  cases hfamily : (author.get? "family").bind Json.str? <;>
    cases hliteral : (author.get? "literal").bind Json.str? <;>
      simp [hfamily, hliteral]

/-- An empty family name is one to sort by. -/
theorem sortAuthor_of_empty (h : r.items "author" = author :: others)
    (hempty : author.get? "family" = some (.str "")) : r.sortAuthor = "" := by
  rw [sortAuthor_of_items h, hempty]
  rfl

/-- Otherwise it is the name that the author is led by. -/
theorem sortAuthor_of_ledBy (h : r.items "author" = author :: others)
    (hempty : author.get? "family" ≠ some (.str "")) (hled : LedBy author name) :
    r.sortAuthor = name := by
  rw [sortAuthor_of_items h]
  cases hled with
  | family _ hfamily =>
    rw [hfamily]
    rfl
  | literal hnone _ hliteral =>
    have hfamily : (author.get? "family").bind Json.str? = none := by
      rw [Option.bind_eq_none_iff]
      intro j hj
      cases j with
      | str s =>
        rw [hnone s hj] at hj
        exact absurd hj hempty
      | null | bool _ | int _ | real _ | arr _ | obj _ => rfl
    rw [hfamily, hliteral]
    rfl

/-- **When a record is sorted by the name that is shown.** Where the first author has a
family name or a literal name, the name that is shown starts with one of them. The record
is sorted by that one, in lower case, just where no family name is there that is empty. An
empty one is sorted by as it is. -/
theorem sortAuthor_eq_iff_of_named [Calendar.Reader] (hauthors : r.get? "author" = some (.arr (author :: others)))
    (hnamed : ∃ s, s ≠ "" ∧
      (author.get? "family" = some (.str s) ∨ author.get? "literal" = some (.str s))) :
    ∃ name, LedBy author name ∧
      (Author.name author = name ∨ ∃ given, author.get? "given" = some (.str given) ∧
        Author.name author = name ++ " " ++ given) ∧
      (r.sortAuthor = name ↔ author.get? "family" ≠ some (.str "")) ∧
      (Key.of .author r = .ok (.text (lowered name)) ↔ author.get? "family" ≠ some (.str "")) ∧
      (author.get? "family" = some (.str "") → r.sortAuthor = "") := by
  obtain ⟨name, hled⟩ := Author.exists_ledBy hnamed
  have hitems : r.items "author" = author :: others := by
    rw [Record.items, hauthors]
    rfl
  have hname : r.sortAuthor = name ↔ author.get? "family" ≠ some (.str "") := by
    refine ⟨fun heq hempty => ?_, fun hempty => sortAuthor_of_ledBy hitems hempty hled⟩
    exact hled.ne_empty (heq.symm.trans (sortAuthor_of_empty hitems hempty))
  have hkey : Key.of .author r = .ok (.text (lowered name)) ↔
      author.get? "family" ≠ some (.str "") := by
    refine ⟨fun heq hempty => ?_, fun hempty => by rw [Key.of, hname.2 hempty]⟩
    rw [Key.of, sortAuthor_of_empty hitems hempty] at heq
    -- lower case leaves no name empty
    have hlowered : lowered "" = lowered name := by simpa using heq
    have hempty' : name.isEmpty = true := by
      rw [← isEmpty_lowered, ← hlowered, isEmpty_lowered]
      rfl
    exact hled.ne_empty (String.isEmpty_iff.1 hempty')
  exact ⟨name, hled, Author.name_of_ledBy hled, hname, hkey, sortAuthor_of_empty hitems⟩

end Sorting

/-- An institution, with a family name that is no text and a given name. -/
def committee : Json :=
  .obj [("family", .int 7), ("given", .str "R"), ("literal", .str "WHO")]

theorem sortAuthor_eq_iff_of_named_committee :
    Record.get? ⟨[("author", .arr [committee, .str "Adams"])]⟩ "author" =
        some (.arr [committee, .str "Adams"]) ∧
      (∃ s, s ≠ "" ∧ (committee.get? "family" = some (.str s) ∨
        committee.get? "literal" = some (.str s))) ∧
      ∃ name, LedBy committee name ∧
        (Author.name committee = name ∨ ∃ given, committee.get? "given" = some (.str given) ∧
          Author.name committee = name ++ " " ++ given) ∧
        Record.sortAuthor ⟨[("author", .arr [committee, .str "Adams"])]⟩ = name := by
  have hauthors : Record.get? ⟨[("author", .arr [committee, .str "Adams"])]⟩ "author" =
      some (.arr [committee, .str "Adams"]) := rfl
  have hnamed : ∃ s, s ≠ "" ∧ (committee.get? "family" = some (.str s) ∨
      committee.get? "literal" = some (.str s)) := ⟨"WHO", by decide, .inr rfl⟩
  let := Calendar.Reader.onDay ⟨2024, 2, 29⟩
  obtain ⟨name, hled, hshown, hsorted, -⟩ := sortAuthor_eq_iff_of_named hauthors hnamed
  have hfamily : committee.get? "family" ≠ some (.str "") := by
    intro h
    cases h
  exact ⟨hauthors, hnamed, name, hled, hshown, hsorted.2 hfamily⟩

/-- An institution, with a family name that is empty. -/
def institution : Json :=
  .obj [("family", .str ""), ("literal", .str "WHO")]

/-- A record of the institution. -/
def byEmptyFamily : Record :=
  ⟨[("id", .str "a"), ("author", .arr [institution])]⟩

/-- A record of a person. -/
def byAdams : Record :=
  ⟨[("id", .str "b"), ("author", .arr [.obj [("family", .str "Adams")]])]⟩

/-- **An institution with an empty family name is sorted before all others**, and not by
the name that is shown. -/
theorem sortByField_byEmptyFamily :
    LedBy institution "WHO" ∧ byEmptyFamily.authorNames = ["WHO"] ∧
      byAdams.authorNames = ["Adams"] ∧ lowered "Adams" < lowered "WHO" ∧
      byEmptyFamily.sortAuthor = "" ∧
      ∀ _ : Calendar.Reader, sortByField id .author .ascending [byEmptyFamily, byAdams] =
        .ok [byEmptyFamily, byAdams] := by
  have hled : LedBy institution "WHO" := by
    refine .literal (fun s hs => ?_) (by decide) rfl
    cases hs
    rfl
  refine ⟨hled, by decide +kernel, by decide +kernel, by decide +kernel, rfl, fun _ => ?_⟩
  have hcreated : ∀ r ∈ [byEmptyFamily, byAdams],
      Key.of .created r = .ok (.moment Calendar.Moment.epoch) := by
    simp only [List.forall_mem_cons, Key.of]
    rw [Record.created_of_unstamped rfl, Record.created_of_unstamped rfl]
    exact ⟨rfl, rfl, List.forall_mem_nil _⟩
  have hcomparable : Comparable id .created [byEmptyFamily, byAdams] := by
    refine comparable_of_zone (z := .utc) (fun r hr => ⟨_, hcreated r hr⟩) fun r hr m hm => ?_
    cases (hcreated r hr).symm.trans hm
    rfl
  refine sortByField_eq_of_pairwise ⟨hcomparable, comparable_author⟩ (by decide) (.refl _)
    (List.pairwise_pair.2 ⟨_, _, rfl, rfl, .inl (by decide +kernel)⟩)

end Order

end Bibliography
