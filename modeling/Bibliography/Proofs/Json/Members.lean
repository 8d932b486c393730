import Bibliography.Json.Value
import Mathlib.Data.List.Induction
import Mathlib.Data.List.Nodup
/-!
# Members of objects

Members are looked up by their keys, whatever is done to them: one is put there
(`get?_put`), some are left out (`get?_filter`), or their values are changed
(`get?_map`). What is put together member by member names every key once
(`nodup_keys_ofList`); `DistinctKeys` says so of a value and of all objects in it.
-/

namespace Bibliography.Json

/-- **Values whose objects name every key once.** An array is taken as a whole,
whatever is in it. -/
inductive DistinctKeys : Json → Prop
  | leaf {value : Json} (hvalue : value.obj? = none) : DistinctKeys value
  | obj {members : Members} (hkeys : (members.map (·.1)).Nodup)
      (hvalues : ∀ m ∈ members, DistinctKeys m.2) : DistinctKeys (.obj members)

/-- Only an object has anything under a key. -/
theorem get?_eq_some_iff {key : String} {j value : Json} :
    j.get? key = some value ↔
      ∃ members, j = .obj members ∧ Members.get? key members = some value := by
  cases j <;> simp [get?]

theorem arr?_eq_some_iff {j : Json} {items : List Json} : j.arr? = some items ↔ j = .arr items := by
  cases j <;> simp [arr?]

namespace Members

variable {key : String} {value : Json} {members entries : Members}

/-! ## Looking up -/

theorem get?_cons (key k : String) (v : Json) (rest : Members) :
    get? key ((k, v) :: rest) = if key = k then some v else get? key rest := by
  rw [get?, List.lookup_cons]
  by_cases h : key = k
  · rw [if_pos h, beq_iff_eq.2 h]
  · rw [if_neg h, beq_eq_false_iff_ne.2 h]
    rfl

theorem get?_put (key other : String) (value : Json) (members : Members) :
    get? key (put other value members) = if key = other then some value else get? key members := by
  split
  · next h => rw [h, get?_put_self]
  · next h =>
    induction members with
    | nil => rw [put, get?_cons, if_neg h]
    | cons m rest ih =>
      obtain ⟨k, v⟩ := m
      rw [put, get?_cons]
      split
      · next hk => rw [get?_cons, hk, if_neg h, if_neg h]
      · rw [get?_cons, ih]

theorem get?_filter (keep : String → Bool) (key : String) (members : Members) :
    get? key (members.filter (keep ·.1)) = if keep key then get? key members else none := by
  induction members with
  | nil => exact (ite_self _).symm
  | cons m rest ih =>
    obtain ⟨k, v⟩ := m
    rw [List.filter_cons, get?_cons]
    by_cases hk : key = k
    · subst hk
      cases hkeep : keep key <;> simp [get?_cons, ih, hkeep]
    · cases keep k <;> simp [get?_cons, ih, hk]

theorem get?_map (f : String → Json → Json) (key : String) (members : Members) :
    get? key (members.map fun m => (m.1, f m.1 m.2)) = (get? key members).map (f key) := by
  induction members with
  | nil => rfl
  | cons m rest ih =>
    obtain ⟨k, v⟩ := m
    rw [List.map_cons, get?_cons, get?_cons, ih]
    split
    · next hk => rw [hk, Option.map_some]
    · rfl

theorem get?_eq_none (h : key ∉ members.map (·.1)) : get? key members = none := by
  rw [get?, List.lookup_eq_none_iff]
  intro m hm
  exact bne_iff_ne.2 fun hkey => h (hkey ▸ List.mem_map_of_mem hm)

theorem mem_of_get? (h : get? key members = some value) : (key, value) ∈ members := by
  obtain ⟨before, after, rfl, -⟩ := List.lookup_eq_some_iff.1 h
  simp

theorem get?_of_mem {m : String × Json} (hkeys : (members.map (·.1)).Nodup) (h : m ∈ members) :
    get? m.1 members = some m.2 := by
  induction members with
  | nil => cases h
  | cons first rest ih =>
    obtain ⟨k, v⟩ := first
    rw [List.map_cons, List.nodup_cons] at hkeys
    rw [get?_cons]
    rcases List.mem_cons.1 h with rfl | h
    · rw [if_pos rfl]
    · have hmem : m.1 ∈ rest.map (·.1) := List.mem_map_of_mem h
      have hne : m.1 ≠ k := fun hk => hkeys.1 (hk ▸ hmem)
      rw [if_neg hne, ih hkeys.2 h]

/-! ## Putting together -/

theorem ofList_concat (m : String × Json) :
    ofList (entries ++ [m]) = put m.1 m.2 (ofList entries) := by
  simp [ofList]

theorem keys_put : (put key value members).map (·.1) =
    if key ∈ members.map (·.1) then members.map (·.1) else members.map (·.1) ++ [key] := by
  induction members with
  | nil => simp [put]
  | cons m rest ih =>
    obtain ⟨k, v⟩ := m
    by_cases hk : k = key
    · simp [put, hk]
    · have hk' : ¬ key = k := fun h => hk h.symm
      rw [put, if_neg hk, List.map_cons, ih]
      by_cases hmem : key ∈ rest.map (·.1)
      · simp [hmem]
      · simp [hmem, hk']

theorem mem_put {m : String × Json} (h : m ∈ put key value members) :
    m = (key, value) ∨ m ∈ members := by
  induction members with
  | nil => exact .inl (List.mem_singleton.1 h)
  | cons first rest ih =>
    obtain ⟨k, v⟩ := first
    by_cases hk : k = key
    · rw [put, if_pos hk, hk] at h
      exact (List.mem_cons.1 h).imp id (List.mem_cons_of_mem _)
    · rw [put, if_neg hk] at h
      rcases List.mem_cons.1 h with rfl | h
      · exact .inr List.mem_cons_self
      · exact (ih h).imp id (List.mem_cons_of_mem _)

/-- A key that is not there yet comes at the end. -/
theorem put_of_not_mem (h : key ∉ members.map (·.1)) :
    put key value members = members ++ [(key, value)] := by
  induction members with
  | nil => rfl
  | cons first rest ih =>
    obtain ⟨k, v⟩ := first
    rw [List.map_cons, List.mem_cons, not_or] at h
    rw [put, if_neg (fun hk => h.1 hk.symm), ih h.2, List.cons_append]

/-- What is there already can be put there. -/
theorem put_of_get? (h : get? key members = some value) : put key value members = members := by
  induction members with
  | nil => cases h
  | cons first rest ih =>
    obtain ⟨k, v⟩ := first
    rw [get?_cons] at h
    rw [put]
    split at h
    · next hk => rw [if_pos hk.symm, Option.some.inj h]
    · next hk => rw [if_neg fun h' => hk h'.symm, ih h]

theorem nodup_keys_put (hkeys : (members.map (·.1)).Nodup) (key : String) (value : Json) :
    ((put key value members).map (·.1)).Nodup := by
  rw [keys_put]
  split
  · exact hkeys
  · next hnew =>
    rw [← List.concat_eq_append]
    exact hkeys.concat hnew

/-- No key stands twice in an object. -/
theorem nodup_keys_ofList (entries : List (String × Json)) :
    ((ofList entries).map (·.1)).Nodup := by
  induction entries using List.reverseRecOn with
  | nil => exact List.nodup_nil
  | append_singleton entries m ih =>
    rw [ofList_concat]
    exact nodup_keys_put ih m.1 m.2

theorem mem_of_mem_ofList {m : String × Json} (h : m ∈ ofList entries) : m ∈ entries := by
  induction entries using List.reverseRecOn with
  | nil => exact h
  | append_singleton entries last ih =>
    rw [ofList_concat] at h
    rcases mem_put h with rfl | h
    · exact List.mem_append_right _ (List.mem_singleton_self _)
    · exact List.mem_append_left _ (ih h)

/-- Members whose keys are apart are an object as they come. -/
theorem ofList_eq_self (h : (entries.map (·.1)).Nodup) : ofList entries = entries := by
  induction entries using List.reverseRecOn with
  | nil => rfl
  | append_singleton entries last ih =>
    rw [List.map_append, List.map_singleton, ← List.concat_eq_append, List.nodup_concat] at h
    rw [ofList_concat, ih h.2, put_of_not_mem h.1]

end Members

end Bibliography.Json
