/-!
# Sorting by several keys

Orders are given as comparisons. A list is sorted by a comparison stably:
elements that compare as equal stay as they stood.
-/

namespace Bibliography.Order

/-- Sorts by a comparison, stably. -/
def sortBy {α : Type} (c : α → α → Ordering) (l : List α) : List α :=
  l.mergeSort fun a b => (c a b).isLE

/-- Sorts elements by the keys that they come with, stably. -/
def sortKeyed {κ α : Type} (c : κ → κ → Ordering) (l : List (κ × α)) : List α :=
  (sortBy (fun a b => c a.1 b.1) l).map (·.2)

end Bibliography.Order
