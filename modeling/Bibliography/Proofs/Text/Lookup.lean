import Bibliography.Text.Lookup
import Mathlib.Algebra.Group.Nat.Defs
import Mathlib.Data.List.Chain
/-!
# What is found in a sorted table

A table is looked up by halving. Where its entries are in order, that finds the
entry that reaches over a code point (`lastAtMost?_eq_some`); so a set holds what lies
in one of its ranges, and a map moves what it has an entry for
(`contains_ofList_iff`, `Runs.get?_ofList_eq_some_iff`,
`Expansions.get?_ofList_eq_some_iff`).
-/

namespace Bibliography.Text

/-! ## Halving -/

section

variable {key : Nat → Nat} {size c n bits count : Nat}

/-- Halving finds how many keys are at most `c`. -/
theorem countAtMost_eq (hsize : n ≤ size) (hkey : ∀ i < size, key i ≤ c ↔ i < n)
    (hlow : count ≤ n) (hhigh : n < count + 2 ^ bits) :
    countAtMost key size c bits count = n := by
  induction bits generalizing count with
  | zero =>
    rw [countAtMost]
    omega
  | succ bits ih =>
    have hpos : 0 < 2 ^ bits := Nat.two_pow_pos bits
    -- half of what is open is counted just when the last key of that half is at most `c`
    have hnext : (count + 2 ^ bits ≤ size && key (count + 2 ^ bits - 1) ≤ c) = true ↔
        count + 2 ^ bits ≤ n := by
      rw [Bool.and_eq_true, decide_eq_true_iff, decide_eq_true_iff]
      constructor
      · rintro ⟨hle, hc⟩
        have := (hkey _ (by omega)).1 hc
        omega
      · intro hle
        exact ⟨by omega, (hkey _ (by omega)).2 (by omega)⟩
    rw [countAtMost, Nat.pow_eq]
    split
    · next h => exact ih (hnext.1 h) (by omega)
    · next h => exact ih hlow (by rw [hnext] at h; omega)

/-- The last of the keys that halving has counted is at most `c`. -/
theorem countAtMost_eq_or_le :
    countAtMost key size c bits count = count ∨
      key (countAtMost key size c bits count - 1) ≤ c := by
  induction bits generalizing count with
  | zero => exact .inl rfl
  | succ bits ih =>
    rw [countAtMost]
    split
    · next h =>
      rw [Bool.and_eq_true, decide_eq_true_iff, decide_eq_true_iff] at h
      rcases ih with heq | hle
      · rw [heq]
        exact .inr h.2
      · exact .inr hle
    · exact ih

end

/-! ## Tables in order -/

variable {α : Type} {start stop : α → Nat} {table : List α} {e : α} {n : Nat}

/-- A table that halving finds its way in: the entries reach from a start to a
stop, each behind the one before it, and they are not too many. -/
structure Searchable (start stop : α → Nat) (table : List α) : Prop where
  start_le : ∀ e ∈ table, start e ≤ stop e
  chain : table.IsChain fun a b => stop a < start b
  length_lt : table.length < 2 ^ 16

instance : Decidable (Searchable start stop table) :=
  decidable_of_iff ((∀ e ∈ table, start e ≤ stop e) ∧
      table.IsChain (fun a b => stop a < start b) ∧ table.length < 2 ^ 16)
    ⟨fun h => ⟨h.1, h.2.1, h.2.2⟩, fun h => ⟨h.1, h.2, h.3⟩⟩

theorem Searchable.pairwise (h : Searchable start stop table) :
    table.Pairwise fun a b => stop a < start b := by
  have hchain : table.IsChain fun a b => stop a < start b ∧ start b ≤ stop b :=
    h.chain.imp_of_mem_imp fun a b _ hb hab => ⟨hab, h.start_le b hb⟩
  have : Trans (fun a b => stop a < start b ∧ start b ≤ stop b)
      (fun a b => stop a < start b ∧ start b ≤ stop b)
      (fun a b => stop a < start b ∧ start b ≤ stop b) :=
    ⟨fun hab hbc => ⟨by omega, hbc.2⟩⟩
  exact hchain.pairwise.imp fun hab => hab.1

theorem start_le_of_lastAtMost? {table : Array α} (h : lastAtMost? start table n = some e) :
    start e ≤ n := by
  unfold lastAtMost? at h
  have hle := @countAtMost_eq_or_le (fun i => (table[i]?.map start).getD 0) table.size n 16 0
  split at h
  · cases h
  · next hcount =>
    rw [hcount] at hle
    rcases hle with h0 | hle
    · cases h0
    · simpa [h] using hle

/-- **Halving finds the entry that reaches over a code point.** -/
theorem lastAtMost?_eq_some {table : Array α} (he : e ∈ table)
    (htable : Searchable start stop table.toList) (hstart : start e ≤ n) (hstop : n ≤ stop e) :
    lastAtMost? start table n = some e := by
  obtain ⟨front, back, htoList⟩ := List.append_of_mem (Array.mem_def.1 he)
  obtain rfl : table = (front ++ e :: back).toArray := by rw [← htoList, Array.toArray_toList]
  rw [List.toList_toArray] at htable
  have hpairs := List.pairwise_append.1 htable.pairwise
  have hbehind := List.pairwise_cons.1 hpairs.2.1
  -- the entries before the one that is looked for start before it, the others behind it
  have hkey : ∀ i < (front ++ e :: back).toArray.size,
      (((front ++ e :: back).toArray[i]?.map start).getD 0 ≤ n ↔ i < front.length + 1) := by
    intro i hi
    rw [List.getElem?_toArray]
    rcases Nat.lt_trichotomy i front.length with hlt | rfl | hgt
    · rw [List.getElem?_append_left hlt, List.getElem?_eq_getElem hlt]
      have := hpairs.2.2 _ (List.getElem_mem hlt) e List.mem_cons_self
      have := htable.start_le _ (List.mem_append_left _ (List.getElem_mem hlt))
      simp only [Option.map_some, Option.getD_some]
      omega
    · simp [hstart]
    · obtain ⟨j, rfl⟩ := Nat.exists_eq_add_of_lt hgt
      have hj : j < back.length := by
        simp only [List.size_toArray, List.length_append, List.length_cons] at hi
        omega
      have := hbehind.1 _ (List.getElem_mem hj)
      rw [List.getElem?_append_right (by omega),
        show front.length + j + 1 - front.length = j + 1 by omega, List.getElem?_cons_succ,
        List.getElem?_eq_getElem hj]
      simp only [Option.map_some, Option.getD_some]
      omega
  have hcount : countAtMost (fun i => ((front ++ e :: back).toArray[i]?.map start).getD 0)
      (front ++ e :: back).toArray.size n 16 0 = front.length + 1 := by
    refine countAtMost_eq ?_ hkey (Nat.zero_le _) ?_
    · simp
    · have := htable.length_lt
      simp only [List.length_append, List.length_cons] at this
      omega
  rw [lastAtMost?, hcount]
  simp

/-! ## Sets and maps -/

variable {ranges : List (Nat × Nat)} {runs : List (Nat × Nat × Nat × Nat)}
  {entries : List (Nat × List Nat)} {c d : Char} {cs : List Char}

theorem Ranges.contains_ofList_iff (h : Searchable (·.1) (·.2) ranges) :
    (Ranges.ofList ranges).contains c = true ↔ ∃ r ∈ ranges, r.1 ≤ c.toNat ∧ c.toNat ≤ r.2 := by
  unfold contains ofList
  constructor
  · intro hcontains
    split at hcontains
    · next first last hfound =>
      exact ⟨_, List.mem_toArray.1 (mem_of_lastAtMost? hfound), start_le_of_lastAtMost? hfound,
        of_decide_eq_true hcontains⟩
    · cases hcontains
  · rintro ⟨r, hr, hstart, hstop⟩
    rw [lastAtMost?_eq_some (List.mem_toArray.2 hr) h hstart hstop]
    exact decide_eq_true hstop

theorem Expansions.get?_ofList_eq_some_iff (h : Searchable (·.1) (·.1) entries) :
    (Expansions.ofList entries).get? c = some cs ↔
      ∃ text, (c.toNat, text) ∈ entries ∧ cs = text.map Char.ofNat := by
  unfold get? ofList
  constructor
  · intro hget
    split at hget
    · next start text hfound =>
      split at hget
      · next heq =>
        subst heq
        exact ⟨text, List.mem_toArray.1 (mem_of_lastAtMost? hfound), (Option.some.inj hget).symm⟩
      · cases hget
    · cases hget
  · rintro ⟨text, htext, rfl⟩
    rw [lastAtMost?_eq_some (List.mem_toArray.2 htext) h le_rfl le_rfl]
    exact if_pos rfl

/-- The entries of a run with some steps, before further entries. -/
def stepEntries (step : Nat) : (steps first target : Nat) → List (Nat × List Nat) →
    List (Nat × List Nat)
  | 0, first, target, rest => (first, [target]) :: rest
  | steps + 1, first, target, rest =>
    (first, [target]) :: stepEntries step steps (first + step) (target + step) rest

/-- The entries that runs stand for. -/
def runEntries : List (Nat × Nat × Nat × Nat) → List (Nat × List Nat)
  | [] => []
  | (first, last, step, target) :: rest =>
    stepEntries step ((last - first) / step) first target (runEntries rest)

theorem mem_stepEntries {step steps first target : Nat} {rest : List (Nat × List Nat)}
    {e : Nat × List Nat} : e ∈ stepEntries step steps first target rest ↔
      (∃ i ≤ steps, e = (first + step * i, [target + step * i])) ∨ e ∈ rest := by
  induction steps generalizing first target with
  | zero => simp [stepEntries]
  | succ steps ih =>
    rw [stepEntries, List.mem_cons, ih, ← or_assoc]
    refine or_congr_left ⟨?_, ?_⟩
    · rintro (rfl | ⟨i, hi, rfl⟩)
      · exact ⟨0, Nat.zero_le _, by simp⟩
      · exact ⟨i + 1, by omega, by simp [Nat.mul_succ, Nat.add_assoc, Nat.add_comm step]⟩
    · rintro ⟨i, hi, rfl⟩
      cases i with
      | zero => exact .inl (by simp)
      | succ i =>
        exact .inr ⟨i, by omega, by simp [Nat.mul_succ, Nat.add_assoc, Nat.add_comm step]⟩

theorem mem_runEntries {text : List Nat} :
    (n, text) ∈ runEntries runs ↔ ∃ first last step target, (first, last, step, target) ∈ runs ∧
      (∃ i ≤ (last - first) / step, n = first + step * i) ∧ text = [target + (n - first)] := by
  induction runs with
  | nil => simp [runEntries]
  | cons r rest ih =>
    obtain ⟨first, last, step, target⟩ := r
    rw [runEntries, mem_stepEntries, ih]
    constructor
    · rintro (⟨i, hi, heq⟩ | ⟨first, last, step, target, hrun, hn⟩)
      · obtain ⟨rfl, rfl⟩ := Prod.mk.inj heq
        exact ⟨first, last, step, target, List.mem_cons_self, ⟨i, hi, rfl⟩, by simp⟩
      · exact ⟨first, last, step, target, List.mem_cons_of_mem _ hrun, hn⟩
    · rintro ⟨first, last, step, target, hrun, ⟨i, hi, rfl⟩, rfl⟩
      rcases List.mem_cons.1 hrun with heq | hrun
      · cases heq
        exact .inl ⟨i, hi, by simp⟩
      · exact .inr ⟨first, last, step, target, hrun, ⟨i, hi, rfl⟩, rfl⟩

theorem Runs.mem_ofList {r : Run} : r ∈ (Runs.ofList runs).runs ↔
    ∃ first last step target, (first, last, step, target) ∈ runs ∧
      r = ⟨first, last, step, target⟩ := by
  simp [ofList, eq_comm]

theorem Runs.searchable_ofList (h : Searchable (·.1) (·.2.1) runs) :
    Searchable Run.first Run.last (Runs.ofList runs).runs.toList where
  start_le := List.forall_mem_map.2 h.start_le
  chain := (List.isChain_map _).2 h.chain
  length_lt := by simpa [ofList] using h.length_lt

theorem Runs.get?_ofList_eq_some_iff (h : Searchable (·.1) (·.2.1) runs) :
    (Runs.ofList runs).get? c = some d ↔
      ∃ v, (c.toNat, [v]) ∈ runEntries runs ∧ d = Char.ofNat v := by
  unfold get?
  simp only [mem_runEntries]
  constructor
  · intro hget
    split at hget
    · next r hfound =>
      obtain ⟨first, last, step, target, hrun, rfl⟩ := mem_ofList.1 (mem_of_lastAtMost? hfound)
      have hstart : first ≤ c.toNat := start_le_of_lastAtMost? hfound
      split at hget
      · next hin =>
        rw [Bool.and_eq_true, decide_eq_true_iff, beq_iff_eq] at hin
        obtain ⟨hlast, hstep⟩ : c.toNat ≤ last ∧ (c.toNat - first) % step = 0 := hin
        have hdiv := Nat.mul_div_cancel' (Nat.dvd_of_mod_eq_zero hstep)
        exact ⟨_, ⟨first, last, step, target, hrun,
          ⟨(c.toNat - first) / step, Nat.div_le_div_right (by omega), by omega⟩, rfl⟩,
          (Option.some.inj hget).symm⟩
      · cases hget
    · cases hget
  · rintro ⟨v, ⟨first, last, step, target, hrun, ⟨i, hi, hn⟩, hv⟩, rfl⟩
    obtain rfl := List.singleton_inj.1 hv
    have hfirst : first ≤ last := h.start_le _ hrun
    -- the number of steps is rounded down, so the last one does not go past the end
    have hlast : first + step * i ≤ last := by
      have := (Nat.mul_le_mul_left step hi).trans (Nat.mul_div_le (last - first) step)
      omega
    rw [lastAtMost?_eq_some (mem_ofList.2 ⟨_, _, _, _, hrun, rfl⟩) (searchable_ofList h)
      (show first ≤ c.toNat by omega) (show c.toNat ≤ last by omega)]
    exact if_pos (by simp [hn, hlast])

end Bibliography.Text
