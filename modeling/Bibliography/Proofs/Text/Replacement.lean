import Bibliography.Proofs.Text.CodeSet
import Bibliography.Proofs.Text.Lookup
/-!
# Characters replaced by texts

A table of replacements gives code points and the text in place of each. Looking
a character up in two tables finds what stands for it by all their entries
(`lookup_cases`). What stands for it keeps out of a set if no entry leads into
the set from outside (`StandsFor.not_mem`).
-/

namespace Bibliography.Text

variable {s : CodeSet} {entries expansions : List (Nat × List Nat)}
  {runs : List (Nat × Nat × Nat × Nat)} {c d : Char} {cs : List Char} {n v : Nat} {text : List Nat}

/-! ## Tables -/

/-- The code points that a table has an entry for. -/
def keys (entries : List (Nat × List Nat)) : CodeSet :=
  .collect (fun e => [e.1]) entries

/-- The code points that the entries of a table lead to. -/
def values (entries : List (Nat × List Nat)) : CodeSet :=
  .collect (·.2) entries

/-- A table that does not lead into a set from outside. -/
def KeepsOut (s : CodeSet) (entries : List (Nat × List Nat)) : Prop :=
  s.Apart (.collect (fun e => if e.1 ∈ s then [] else e.2) entries)

instance : Decidable (KeepsOut s entries) :=
  inferInstanceAs (Decidable (s.Apart _))

theorem mem_keys : n ∈ keys entries ↔ ∃ text, (n, text) ∈ entries := by
  rw [keys, CodeSet.mem_collect]
  constructor
  · rintro ⟨e, he, hn⟩
    exact ⟨e.2, List.mem_singleton.1 hn ▸ he⟩
  · rintro ⟨text, h⟩
    exact ⟨_, h, List.mem_singleton_self n⟩

theorem mem_values (he : (n, text) ∈ entries) (hv : v ∈ text) : v ∈ values entries :=
  CodeSet.mem_collect.2 ⟨_, he, hv⟩

theorem KeepsOut.not_mem (h : KeepsOut s entries) (he : (n, text) ∈ entries) (hn : n ∉ s)
    (hv : v ∈ text) : v ∉ s :=
  CodeSet.Apart.not_mem h (CodeSet.mem_collect.2 ⟨_, he, by rwa [if_neg hn]⟩)

/-- What looking a character up in expansions and in runs finds is what their
entries say. -/
theorem lookup_cases (hexpansions : Searchable (·.1) (·.1) expansions)
    (hruns : Searchable (·.1) (·.2.1) runs) (c : Char) :
    (∃ text, (c.toNat, text) ∈ expansions ++ runEntries runs ∧
        (Expansions.ofList expansions).get? c = some (text.map Char.ofNat)) ∨
      (Expansions.ofList expansions).get? c = none ∧
        ((∃ v, (c.toNat, [v]) ∈ expansions ++ runEntries runs ∧
            (Runs.ofList runs).get? c = some (Char.ofNat v)) ∨
          (Runs.ofList runs).get? c = none ∧ c.toNat ∉ keys (expansions ++ runEntries runs)) := by
  cases hexpansion : (Expansions.ofList expansions).get? c with
  | some cs =>
    obtain ⟨text, htext, rfl⟩ :=
      (Expansions.get?_ofList_eq_some_iff hexpansions).1 hexpansion
    exact .inl ⟨text, List.mem_append_left _ htext, rfl⟩
  | none =>
    cases hrun : (Runs.ofList runs).get? c with
    | some d =>
      obtain ⟨v, hv, rfl⟩ := (Runs.get?_ofList_eq_some_iff hruns).1 hrun
      exact .inr ⟨rfl, .inl ⟨v, List.mem_append_right _ hv, rfl⟩⟩
    | none =>
      refine .inr ⟨rfl, .inr ⟨rfl, fun hkey => ?_⟩⟩
      obtain ⟨text, htext⟩ := mem_keys.1 hkey
      rcases List.mem_append.1 htext with htext | htext
      · have := (Expansions.get?_ofList_eq_some_iff hexpansions).2 ⟨text, htext, rfl⟩
        cases hexpansion.symm.trans this
      · obtain ⟨first, last, step, target, -, -, rfl⟩ := mem_runEntries.1 htext
        have := (Runs.get?_ofList_eq_some_iff hruns).2 ⟨_, htext, rfl⟩
        cases hrun.symm.trans this

/-! ## Replacements -/

/-- What stands for a character by a table: the text of an entry or, without one,
the character itself. -/
inductive StandsFor (entries : List (Nat × List Nat)) (c : Char) : List Char → Prop
  | itself (h : c.toNat ∉ keys entries) : StandsFor entries c [c]
  | entry {text : List Nat} (h : (c.toNat, text) ∈ entries) :
      StandsFor entries c (text.map Char.ofNat)

theorem StandsFor.eq_singleton (h : StandsFor entries c cs) (hc : c.toNat ∉ keys entries) :
    cs = [c] := by
  cases h with
  | itself => rfl
  | entry he => exact absurd (mem_keys.2 ⟨_, he⟩) hc

theorem toNat_ofNat (h : n.isValidChar) : (Char.ofNat n).toNat = n := by
  rw [Char.ofNat, dif_pos h]
  rfl

/-- A number that is no code point gives the first character. -/
theorem toNat_ofNat_not_mem (h0 : 0 ∉ s) (hn : n ∉ s) : (Char.ofNat n).toNat ∉ s := by
  by_cases h : n.isValidChar
  · rwa [toNat_ofNat h]
  · rw [Char.ofNat, dif_neg h]
    exact h0

/-- A replacement keeps out of a set that its table does not lead into. -/
theorem StandsFor.not_mem (h : StandsFor entries c cs) (hs : KeepsOut s entries) (h0 : 0 ∉ s)
    (hc : c.toNat ∉ s) (hd : d ∈ cs) : d.toNat ∉ s := by
  cases h with
  | itself => rwa [List.mem_singleton.1 hd]
  | @entry text he =>
    obtain ⟨v, hv, rfl⟩ := List.mem_map.1 hd
    exact toNat_ofNat_not_mem h0 (hs.not_mem he hc hv)

/-- A replacement keeps out of a set that no entry leads into, if the character
does as long as it has no entry. -/
theorem StandsFor.not_mem_of_apart (h : StandsFor entries c cs) (hs : s.Apart (values entries))
    (h0 : 0 ∉ s) (hc : c.toNat ∉ keys entries → c.toNat ∉ s) (hd : d ∈ cs) : d.toNat ∉ s := by
  cases h with
  | itself hkey =>
    rw [List.mem_singleton.1 hd]
    exact hc hkey
  | @entry text he =>
    obtain ⟨v, hv, rfl⟩ := List.mem_map.1 hd
    exact toNat_ofNat_not_mem h0 (hs.not_mem (mem_values he hv))

end Bibliography.Text
