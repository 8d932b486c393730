import Bibliography.Match.Hit
import Bibliography.Order.Comparison
/-!
# The order of relevance

Stronger matches come first, then later years, then the family name of the
first author and the title in lower case. A missing author or title comes
after those that are there, and an unknown year counts as zero.
-/

namespace Bibliography.Order

/-- What the order of relevance looks at. -/
structure Relevance where
  rank : Nat
  year : Int
  family : String
  title : String

namespace Relevance

/-- The key of a record that matched with the given strength. The year is
the number that its text writes. -/
def of (strength : Match.Strength) (r : Record) : Except NumeralError Relevance := do
  let year ← Text.readIntIn 10 (← r.year).toList
  return ⟨strength.rank, year, lowered r.firstFamily, lowered ((r.str? "title").getD "")⟩

/-- Compares texts, an empty one after all others. -/
def compareText (a b : String) : Ordering :=
  (compare a.isEmpty b.isEmpty).then (compare a b)

/-- The more relevant key is the smaller one. -/
def compareKeys (a b : Relevance) : Ordering :=
  (compare b.rank a.rank).then <|
    (compare b.year a.year).then <|
      (compareText a.family b.family).then (compareText a.title b.title)

end Relevance

/-- Sorts by relevance, the most relevant first. -/
def sortByRelevance {α : Type} (strength : α → Match.Strength) (record : α → Record)
    (l : List α) : Except NumeralError (List α) := do
  let keyed ← l.mapM fun x => return (← Relevance.of (strength x) (record x), x)
  return sortKeyed Relevance.compareKeys keyed

end Bibliography.Order
