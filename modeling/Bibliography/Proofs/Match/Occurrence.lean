import Bibliography.Proofs.Match.OwnText
/-!
# What stands in a text and is found there

The search form of a value may stand, as it is, in that of a text. Then the
text contains the value, and a token finds it in every record that holds the
text (`contains_of_searchForm_append`), with one exception: a capital sigma
that ends a word in the one and not in the other
(`not_contains_wordEnd`).
-/

namespace Bibliography.Match

open Query (Field)

section Occurrence

variable {r : Record} {f : Field} {v t y : String} {front back : List Char} {token : Query.Token}
variable {m : Found}

/-- A token in all fields finds what the rule of any field finds. -/
theorem exists_ofToken_free (hf : token.field = none) (hy : r.year = .ok y)
    (hfound : (Rule.ofField f).find token.value r = .ok (some m)) :
    ∃ found, ofToken token r = .ok found ∧ m ∈ found := by
  refine ⟨_, ofToken_eq_ok hy, List.mem_filterMap.2 ⟨Rule.ofField f, ?_, ?_⟩⟩
  · rw [hf]
    cases f <;> decide
  · rw [Rule.found?, hfound]

/-- **What stands in a text is found there.** Let the search form of a value
stand in that of a text, and let it have an acronym, or let each of its capital
sigmas end a word there just if it does in the value alone. Then the text
contains the value. A token for the value finds it in any record and field that
holds the text, be it a title, the authors, a keyword or a tag: a token for that
field does, and so does one for all fields where the year can be told. -/
theorem contains_of_searchForm_append
    (hoccurs : Text.searchForm t.toList = front ++ Text.searchForm v.toList ++ back)
    (hkeeps : Text.hasAcronym (Text.searchForm v.toList) = true ∨
      Text.KeepsSigmas front (Text.searchForm v.toList) back) :
    contains v t = true ∧
      ∀ (r : Record) (f : Field), Holds r f t → f ∈ containingFields →
        ∀ token : Query.Token, token.value = v →
          (token.field = some f → ∃ text, ofToken token r = .ok [⟨f.name, .inPart, text⟩]) ∧
          (token.field = none → ∀ y, r.year = .ok y →
            ∃ text found, ofToken token r = .ok found ∧ ⟨f.name, .inPart, text⟩ ∈ found) := by
  have hcontains : contains v t = true := by
    rw [contains, hoccurs]
    exact Text.isFoundIn_of_append hkeeps
  refine ⟨hcontains, fun r f hholds hf token hv => ?_⟩
  subst hv
  obtain ⟨text, hfound⟩ := exists_find_of_contains hholds hf hcontains
  exact ⟨fun hfield => ⟨text, ofToken_field hfield hfound⟩,
    fun hfield y hy => ⟨text, exists_ofToken_free hfield hy hfound⟩⟩

theorem searchForm_words :
    Text.searchForm "ΩΣΤΕ".toList = ['Ω', 'Σ', 'Τ', 'Ε'] ∧
      Text.searchForm "ΣΤΕ".toList = ['Σ', 'Τ', 'Ε'] ∧
      Text.searchForm "ΩΣ".toList = ['Ω', 'Σ'] := by
  decide +kernel

/-- Inside a word a sigma does not end it. -/
theorem contains_of_searchForm_append_insideWord :
    Text.searchForm "ΩΣΤΕ".toList = ['Ω'] ++ Text.searchForm "ΣΤΕ".toList ++ [] ∧
      Text.KeepsSigmas ['Ω'] (Text.searchForm "ΣΤΕ".toList) [] ∧
      contains "ΣΤΕ" "ΩΣΤΕ" = true ∧
      ∃ text, ofToken ⟨"title:ΣΤΕ", "ΣΤΕ", some .title, false⟩ ⟨[("title", .str "ΩΣΤΕ")]⟩ =
        .ok [⟨"title", .inPart, text⟩] := by
  obtain ⟨hword, hform, -⟩ := searchForm_words
  have hoccurs : Text.searchForm "ΩΣΤΕ".toList = ['Ω'] ++ Text.searchForm "ΣΤΕ".toList ++ [] := by
    rw [hword, hform]
    rfl
  have hkeeps : Text.KeepsSigmas ['Ω'] (Text.searchForm "ΣΤΕ".toList) [] := by
    rw [hform]
    intro u w huw
    cases u with
    | nil =>
      cases huw
      decide +kernel
    | cons c u =>
      -- no sigma follows the first
      obtain ⟨-, hrest⟩ := List.cons.inj huw
      have hmem : 'Σ' ∈ ['Τ', 'Ε'] := by simp [hrest]
      exact absurd hmem (by decide)
  obtain ⟨hcontains, hfound⟩ := contains_of_searchForm_append hoccurs (.inr hkeeps)
  exact ⟨hoccurs, hkeeps, hcontains,
    (hfound _ .title (.title rfl) (by decide) ⟨"title:ΣΤΕ", "ΣΤΕ", some .title, false⟩ rfl).1 rfl⟩

/-- A word that ends in a sigma is missed at the front of a longer one. -/
theorem not_contains_wordEnd :
    Text.searchForm "ΩΣ".toList <:+: Text.searchForm "ΩΣΤΕ".toList ∧
      contains "ΩΣ" "ΩΣΤΕ" = false ∧
      ofToken ⟨"title:ΩΣ", "ΩΣ", some .title, false⟩ ⟨[("title", .str "ΩΣΤΕ")]⟩ = .ok [] := by
  obtain ⟨hword, -, hform⟩ := searchForm_words
  have hcontains : contains "ΩΣ" "ΩΣΤΕ" = false := by
    rw [contains, hform, hword]
    decide +kernel
  have htitle : Rule.findText "title" "ΩΣ" (some "ΩΣΤΕ") = none := by
    rw [Rule.findText, Option.bind_some, if_neg (by simp [hcontains])]
  refine ⟨?_, hcontains, ofToken_field (o := none) (f := .title) rfl (congrArg Except.ok htitle)⟩
  rw [hform, hword]
  exact ⟨[], ['Τ', 'Ε'], rfl⟩

end Occurrence

end Bibliography.Match
