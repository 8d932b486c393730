import Mathlib.Data.List.Basic
import Bibliography.Order.Comparison
/-!
# Stable sorting

A stable sort leaves elements that compare as equal as they stood
(`filter_sortBy`), so it refines whatever order it was given
(`pairwise_sortBy`). Sorting again and again is therefore sorting once by
several keys, of which the last one sorted by decides first. `ArrangedBy`
follows the elements of a list with the places that they came from, and
`ArrangedBy.sortKeyed` is the step for one key.
-/

namespace Bibliography.Order

/-- The first comes before the second by a comparison or, where that does not
tell them apart, by a relation. -/
def ThenBy {α : Type} (c : α → α → Ordering) (R : α → α → Prop) (a b : α) : Prop :=
  c a b = .lt ∨ c a b = .eq ∧ R a b

section Comparison

variable {α : Type} {c : α → α → Ordering} {l : List α} {R : α → α → Prop}

theorem sortBy_perm : (sortBy c l).Perm l :=
  List.mergeSort_perm l _

theorem sortKeyed_perm {κ : Type} {c : κ → κ → Ordering} {keyed : List (κ × α)} :
    (sortKeyed c keyed).Perm (keyed.map (·.2)) :=
  sortBy_perm.map _

variable [Std.TransCmp c]

theorem isLE_total (a b : α) : ((c a b).isLE || (c b a).isLE) = true := by
  have hswap : c b a = (c a b).swap := Std.OrientedCmp.eq_swap
  rw [hswap]
  cases c a b <;> rfl

theorem pairwise_isLE_sortBy : (sortBy c l).Pairwise fun a b => (c a b).isLE = true :=
  List.pairwise_mergeSort (fun _ _ _ => Std.TransCmp.isLE_trans) isLE_total l

/-- **What compares as equal to an element stays as it stood.** -/
theorem filter_sortBy (a : α) : (sortBy c l).filter (c a · == .eq) = l.filter (c a · == .eq) := by
  have hequal : (l.filter (c a · == .eq)).Pairwise fun x y => (c x y).isLE = true := by
    refine List.pairwise_of_forall_mem_list fun x hx y hy => ?_
    have hax : c a x = .eq := by simpa using List.of_mem_filter hx
    have hay : c a y = .eq := by simpa using List.of_mem_filter hy
    rw [Std.TransCmp.eq_trans (Std.OrientedCmp.eq_symm hax) hay]
    rfl
  have hsub : (l.filter (c a · == .eq)).Sublist (sortBy c l) :=
    List.sublist_mergeSort (fun _ _ _ => Std.TransCmp.isLE_trans) isLE_total hequal
      List.filter_sublist
  have hfilter := hsub.filter (c a · == .eq)
  simp only [List.filter_filter, Bool.and_self] at hfilter
  exact (hfilter.eq_of_length (sortBy_perm.filter _).length_eq.symm).symm

/-- **Sorting refines the order that there was.** -/
theorem pairwise_sortBy (h : l.Pairwise R) : (sortBy c l).Pairwise (ThenBy c R) := by
  rw [List.pairwise_iff_forall_sublist]
  intro a b hab
  have hle : (c a b).isLE = true :=
    List.pairwise_iff_forall_sublist.1 pairwise_isLE_sortBy hab
  cases hc : c a b with
  | lt => exact .inl hc
  | eq =>
    -- the two are among those equal to the first, and these stand as before
    have hpair : [a, b].Sublist (l.filter (c a · == .eq)) := by
      have hfilter := hab.filter (c a · == .eq)
      rwa [filter_sortBy, List.filter_cons_of_pos (by simp [Std.ReflCmp.compare_self]),
        List.filter_cons_of_pos (by simp [hc]), List.filter_nil] at hfilter
    exact .inr ⟨hc, List.pairwise_iff_forall_sublist.1 h (hpair.trans List.filter_sublist)⟩
  | gt => simp [hc] at hle

/-- A comparison of keys compares the elements that have them. -/
instance transCmp_key {κ : Type} (f : κ → α) : Std.TransCmp fun x y => c (f x) (f y) where
  eq_swap := Std.OrientedCmp.eq_swap
  isLE_trans := Std.TransCmp.isLE_trans

end Comparison

/-! ## Where the elements came from -/

/-- The second list holds the elements of the first, arranged by a relation
between elements that stand with the places they came from. -/
def ArrangedBy {α : Type} (R : α × Nat → α × Nat → Prop) (l out : List α) : Prop :=
  ∃ placed : List (α × Nat),
    placed.map (·.1) = out ∧ placed.Perm l.zipIdx ∧ placed.Pairwise R

section Places

variable {α κ : Type} {R R' : α × Nat → α × Nat → Prop} {l out : List α}

/-- At first the elements stand by their places. -/
theorem arrangedBy_self : ArrangedBy (fun x y => x.2 < y.2) l l := by
  refine ⟨l.zipIdx, List.zipIdx_map_fst 0 l, .refl _, List.pairwise_map.1 ?_⟩
  rw [List.zipIdx_map_snd]
  exact List.pairwise_lt_range'

theorem ArrangedBy.perm (h : ArrangedBy R l out) : out.Perm l := by
  obtain ⟨placed, rfl, hperm, -⟩ := h
  have hmap := hperm.map (·.1)
  rwa [List.zipIdx_map_fst] at hmap

theorem ArrangedBy.imp (h : ArrangedBy R l out) (hR : ∀ x y, R x y → R' x y) :
    ArrangedBy R' l out := by
  obtain ⟨placed, hfst, hperm, hpair⟩ := h
  exact ⟨placed, hfst, hperm, hpair.imp (hR _ _)⟩

/-- Where places play no part, the elements are arranged as they stand. -/
theorem ArrangedBy.pairwise {S : α → α → Prop} (h : ArrangedBy (fun x y => S x.1 y.1) l out) :
    out.Pairwise S := by
  obtain ⟨placed, rfl, -, hpair⟩ := h
  exact List.pairwise_map.2 hpair

/-- **Where the relation goes one way only, it tells which of two elements stands
first**, and places of the list are compared as the elements are. -/
theorem ArrangedBy.exists_lt_iff (h : ArrangedBy R l out) (hR : ∀ x y, R x y → ¬ R y x) :
    ∃ placed : List (α × Nat), placed.map (·.1) = out ∧ placed.Perm l.zipIdx ∧
      ∀ (i j : Nat) (x y : α × Nat), placed[i]? = some x → placed[j]? = some y →
        (i < j ↔ R x y) := by
  obtain ⟨placed, hfst, hperm, hpair⟩ := h
  rw [List.pairwise_iff_getElem] at hpair
  refine ⟨placed, hfst, hperm, fun i j x y hx hy => ?_⟩
  obtain ⟨hi, rfl⟩ := List.getElem?_eq_some_iff.1 hx
  obtain ⟨hj, rfl⟩ := List.getElem?_eq_some_iff.1 hy
  refine ⟨hpair i j hi hj, fun hxy => ?_⟩
  rcases Nat.lt_trichotomy i j with hlt | rfl | hgt
  · exact hlt
  · exact absurd hxy (hR _ _ hxy)
  · exact absurd (hpair j i hj hi hgt) (hR _ _ hxy)

/-- **One more key to sort by.** Elements that are arranged by a relation and
then sorted by keys are arranged by the keys first. -/
theorem ArrangedBy.sortKeyed {c : κ → κ → Ordering} [Std.TransCmp c] {keyed : List (κ × α)}
    {K : α → κ → Prop} (hK : ∀ p ∈ keyed, K p.2 p.1) (h : ArrangedBy R l (keyed.map (·.2))) :
    ArrangedBy
      (fun x y => ∃ k k', K x.1 k ∧ K y.1 k' ∧ (c k k' = .lt ∨ c k k' = .eq ∧ R x y)) l
      (sortKeyed c keyed) := by
  obtain ⟨placed, hfst, hperm, hpair⟩ := h
  have hlength : placed.length = keyed.length := by
    rw [← List.length_map (f := (·.1)), hfst, List.length_map]
  -- the keys, and beside each the element with its place
  let both := (keyed.map (·.1)).zip placed
  have hplaced : both.map (·.2) = placed := List.map_snd_zip (by simp [hlength])
  have hkeyed : both.map (Prod.map id (·.1)) = keyed := by
    rw [← List.zip_map_right, hfst]
    exact (List.zip_of_prod rfl rfl).symm
  have hsorted : (sortBy (fun p q => c p.1 q.1) both).map (Prod.map id (·.1)) =
      sortBy (fun p q => c p.1 q.1) keyed := by
    rw [← hkeyed]
    exact List.map_mergeSort fun _ _ _ _ => rfl
  refine ⟨(sortBy (fun p q => c p.1 q.1) both).map (·.2), ?_, ?_, List.pairwise_map.2 ?_⟩
  · rw [Order.sortKeyed, ← hsorted, List.map_map, List.map_map]
    rfl
  · exact (sortBy_perm.map _).trans (hplaced ▸ hperm)
  · have hkey : ∀ p ∈ sortBy (fun p q => c p.1 q.1) both, K p.2.1 p.1 := by
      intro p hp
      have hmem : Prod.map id (·.1) p ∈ keyed := hkeyed ▸ List.mem_map_of_mem (sortBy_perm.mem_iff.1 hp)
      exact hK _ hmem
    have hboth : both.Pairwise fun p q => R p.2 q.2 := List.pairwise_map.1 (hplaced ▸ hpair)
    exact (pairwise_sortBy hboth).imp_of_mem fun hp hq h => ⟨_, _, hkey _ hp, hkey _ hq, h⟩

/-- So it is with keys that every element has. -/
theorem ArrangedBy.sortKeyed_map {c : κ → κ → Ordering} [Std.TransCmp c] (key : α → κ)
    (h : ArrangedBy R l out) :
    ArrangedBy (ThenBy (fun x y => c (key x.1) (key y.1)) R) l
      (Order.sortKeyed c (out.map fun x => (key x, x))) := by
  have hkey : ∀ p ∈ out.map (fun x => (key x, x)), p.1 = key p.2 := by simp
  have hout : (out.map fun x => (key x, x)).map (·.2) = out := by
    simp [Function.comp_def]
  refine (ArrangedBy.sortKeyed (K := fun x k => k = key x) hkey (hout.symm ▸ h)).imp ?_
  rintro x y ⟨_, _, rfl, rfl, hxy⟩
  exact hxy

/-- Two elements stay as they stand unless the second has the smaller key. -/
theorem sortKeyed_pair (c : κ → κ → Ordering) (k k' : κ) (x y : α) :
    sortKeyed c [(k, x), (k', y)] = if (c k k').isLE then [x, y] else [y, x] := by
  simp only [sortKeyed, sortBy, List.mergeSort, List.MergeSort.Internal.splitInTwo]
  cases h : (c k k').isLE <;> simp [h]

end Places

end Bibliography.Order
