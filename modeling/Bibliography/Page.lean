/-!
# Pages of a list

A page is a piece of a list, given by how many items to skip and how many
to show. Zero items to show means all of them. Negative numbers count from
the end of the list.
-/

namespace Bibliography

/-- A piece of a list, and where the next piece starts if there is one. -/
structure Page (α : Type) where
  items : List α
  nextOffset : Option Int
  deriving Repr

namespace Page

/-- A place in a list of the given size, from the front: a negative place
counts from the end. -/
def place (size : Nat) (i : Int) : Nat :=
  if i < 0 then (size + i).toNat else i.toNat

/-- What stands in a list from one place up to another. -/
def slice {α : Type} (l : List α) (start stop : Int) : List α :=
  (l.take (place l.length stop)).drop (place l.length start)

/-- The page of a list that skips `offset` items and shows `limit`. The next
page follows where there is a limit, something is shown and something is
left. -/
def of {α : Type} (l : List α) (limit offset : Int) : Page α :=
  let rest := l.drop (place l.length offset)
  if limit = 0 then ⟨rest, none⟩
  else
    let items := rest.take (place rest.length limit)
    let next := offset + items.length
    ⟨items, if !items.isEmpty && next < l.length then some next else none⟩

section Places

variable {α : Type} {l : List α} {limit offset start stop : Nat}

@[simp] theorem place_natCast (size n : Nat) : place size n = n := by
  rw [place, if_neg (by omega)]
  rfl

theorem slice_natCast : slice l start stop = (l.take stop).drop start := by
  simp [slice]

theorem items_of :
    (of l limit offset).items =
      if limit = 0 then l.drop offset else (l.drop offset).take limit := by
  unfold of
  by_cases h : limit = 0 <;> simp [h]

/-- The page of mapped items is the mapped page. -/
theorem map_items {β : Type} (f : α → β) :
    (of l limit offset).items.map f = (of (l.map f) limit offset).items := by
  rw [items_of, items_of]
  split <;> simp

theorem mem_of_mem_items {x : α} (h : x ∈ (of l limit offset).items) : x ∈ l := by
  rw [items_of] at h
  split at h
  · exact List.mem_of_mem_drop h
  · exact List.mem_of_mem_drop (List.mem_of_mem_take h)

theorem nextOffset_eq (hlimit : 0 < limit) :
    (of l limit offset).nextOffset =
      if 0 < (of l limit offset).items.length ∧
          offset + (of l limit offset).items.length < l.length then
        some ((offset + (of l limit offset).items.length : Nat) : Int)
      else none := by
  have hne : ¬ (limit : Int) = 0 := by omega
  simp only [of, if_neg hne, place_natCast, ← Int.natCast_add, Int.ofNat_lt, Bool.and_eq_true,
    decide_eq_true_eq, Bool.not_eq_true', List.isEmpty_eq_false_iff, ← List.length_pos_iff]

/-- **The next page starts behind the last item, where any item is left.** -/
theorem nextOffset_of (hlimit : 0 < limit) :
    (of l limit offset).nextOffset =
      if offset + limit < l.length then some ((offset + limit : Nat) : Int) else none := by
  have hlength : (of l limit offset).items.length = min limit (l.length - offset) := by
    rw [items_of, if_neg (by omega), List.length_take, List.length_drop]
  rw [nextOffset_eq hlimit, hlength]
  by_cases hleft : offset + limit < l.length
  · have hfull : min limit (l.length - offset) = limit := by omega
    rw [hfull, if_pos ⟨hlimit, hleft⟩, if_pos hleft]
  · rw [if_neg hleft, if_neg (by omega)]

/-- A page shows something if its offset is not beyond the end. -/
theorem items_ne_nil_iff : (of l limit offset).items ≠ [] ↔ offset < l.length := by
  rw [items_of, ne_eq]
  split
  · rw [List.drop_eq_nil_iff]
    omega
  · rw [List.take_eq_nil_iff, List.drop_eq_nil_iff]
    omega

/-- **A page that shows something names the next one where any item is left**, also a page
without a limit, behind which none is. -/
theorem nextOffset_of_ne_nil (hne : (of l limit offset).items ≠ []) :
    (of l limit offset).nextOffset =
      if offset + (of l limit offset).items.length < l.length then
        some ((offset + (of l limit offset).items.length : Nat) : Int)
      else none := by
  rcases Nat.eq_zero_or_pos limit with rfl | hlimit
  · have hlength : (of l (0 : Nat) offset).items.length = l.length - offset := by
      rw [items_of, if_pos rfl, List.length_drop]
    rw [if_neg (by omega)]
    rfl
  · rw [nextOffset_eq hlimit]
    simp only [List.length_pos_iff.2 hne, true_and]

/-- Where the next page starts does not depend on what the items are. -/
theorem nextOffset_map {β : Type} (f : α → β) :
    (of (l.map f) limit offset).nextOffset = (of l limit offset).nextOffset := by
  rcases Nat.eq_zero_or_pos limit with rfl | hlimit
  · rfl
  · rw [nextOffset_of hlimit, nextOffset_of hlimit, List.length_map]

end Places

end Page

end Bibliography
