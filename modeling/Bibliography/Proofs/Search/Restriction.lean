import Bibliography.Proofs.Match.Table
import Bibliography.Proofs.Search.Conjunction
/-!
# Tokens kept to a field

A token in a field finds the part of what the same value finds in all fields
that lies in the field (`ofToken_restrict`), and in all fields nothing is found
under one name twice (`nodup_fields`). So who leaves the field out misses no
record: `exists_ofToken_restrict`.
-/

namespace Bibliography.Match

open Query (Field Token)

section Restriction

variable {r : Record} {v y : String} {f : Field} {free t : Token} {rules : List Rule}
variable {found : List Found} {e : Entry}

/-- What different rules find has different names. -/
theorem nodup_fields (hy : r.year = .ok y) (hrules : rules.Nodup) :
    ((rules.filterMap (Rule.found? v r)).map (·.field)).Nodup := by
  refine List.pairwise_map.2 (List.Pairwise.filterMap _ ?_ hrules)
  intro rule rule' hne m hm m' hm' hname
  have hfield := (rule.found?_sound hy hm).2
  have hfield' := (rule'.found?_sound hy hm').2
  exact hne (Rule.eq_of_mem_fields hfield (hname ▸ hfield'))

/-- Each field's rule is one of those that are asked without a field. -/
theorem filter_all_ofField (f : Field) :
    Rule.all.filter (· == Rule.ofField f) = [Rule.ofField f] := by
  cases f <;> decide

/-- **A token in a field finds the part that lies there** of what the value
finds in all fields. -/
theorem ofToken_restrict (hy : r.year = .ok y) (hfree : free.field = none)
    (hvalue : t.value = free.value) (hf : t.field = some f)
    (hfound : ofToken free r = .ok found) :
    ofToken t r = .ok (found.filter (·.field ∈ recordFields f)) := by
  rw [ofToken_eq_ok hy, hfree, Except.ok.injEq] at hfound
  rw [ofToken_eq_ok hy, hf, hvalue, ← hfound, ← fields_ofField, consulted, consulted,
    filter_fields_filterMap hy, filter_all_ofField]

/-- A record is a hit of a single token when that finds something in it. -/
theorem hit?_single (ht : ofToken t e.record = .ok found) :
    hit? [t] e = .ok (if found.isEmpty then none else some ⟨e, [⟨t, found⟩]⟩) := by
  rw [hit?_of_ne_nil (List.cons_ne_nil t []), ofTokens_cons ht]
  split <;> rfl

/-- **A token without a field finds all that tokens in fields find.** In a
record whose year can be told, what a value finds in all fields goes by names
that are apart, and a token for the value in one field finds just the part of
it that lies in the fields that the field stands for, in the same order. So
every record that a token in a field hits is hit without the field as well. -/
theorem exists_ofToken_restrict (free : Token) (hy : r.year = .ok y) (hfree : free.field = none) :
    ∃ found, ofToken free r = .ok found ∧ (found.map (·.field)).Nodup ∧
      ∀ (t : Token) (f : Field), t.value = free.value → t.field = some f →
        ofToken t r = .ok (found.filter (·.field ∈ recordFields f)) ∧
        ∀ position h, hit? [t] ⟨position, r⟩ = .ok (some h) →
          ∃ h', hit? [free] ⟨position, r⟩ = .ok (some h') := by
  have hok : ofToken free r = .ok ((consulted free.field).filterMap (Rule.found? free.value r)) :=
    ofToken_eq_ok hy
  have hnodup : (((consulted free.field).filterMap (Rule.found? free.value r)).map
      (·.field)).Nodup := by
    rw [hfree]
    exact nodup_fields hy (by decide)
  generalize (consulted free.field).filterMap (Rule.found? free.value r) = found at hok hnodup
  refine ⟨found, hok, hnodup, fun t f hvalue hf => ?_⟩
  have hrestrict := ofToken_restrict hy hfree hvalue hf hok
  refine ⟨hrestrict, fun position h hhit => ?_⟩
  rw [hit?_single (e := ⟨position, r⟩) hrestrict] at hhit
  rw [hit?_single (e := ⟨position, r⟩) hok]
  cases found with
  | nil => simp at hhit
  | cons m rest => exact ⟨_, rfl⟩

/-- A record whose year stands in its title as well. -/
def yearInTitle : Record :=
  ⟨[("title", .str "Outlook 2020"), ("issued", .obj [("date-parts", .arr [.arr [.int 2020]])])]⟩

theorem exists_ofToken_restrict_yearInTitle :
    yearInTitle.year = .ok "2020" ∧
      ∃ found, ofToken ⟨"2020", "2020", none, false⟩ yearInTitle = .ok found ∧
        (found.map (·.field)).Nodup ∧
        ∀ (t : Token) (f : Field), t.value = "2020" → t.field = some f →
          ofToken t yearInTitle = .ok (found.filter (·.field ∈ recordFields f)) ∧
          ∀ position h, hit? [t] ⟨position, yearInTitle⟩ = .ok (some h) →
            ∃ h', hit? [⟨"2020", "2020", none, false⟩] ⟨position, yearInTitle⟩ = .ok (some h') :=
  ⟨rfl, exists_ofToken_restrict ⟨"2020", "2020", none, false⟩ rfl rfl⟩

end Restriction

end Bibliography.Match
