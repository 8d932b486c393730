/-!
# Looking up a code point in a sorted table

The properties of characters are given as tables sorted by their first
code point. This file finds the last entry that starts at or before a
code point, by halving, and reads two kinds of table with it: sets given
by ranges, and one-to-one maps given by arithmetic runs.
-/

namespace Bibliography.Text

/-- How many of the first `size` keys are at most `c`, for increasing keys,
settled one binary digit at a time: `count` keys are known to be, and the
answer is below `count + 2 ^ bits`. -/
def countAtMost (key : Nat → Nat) (size c : Nat) : (bits count : Nat) → Nat
  | 0, count => count
  | bits + 1, count =>
    let next := count + Nat.pow 2 bits
    if next ≤ size && key (next - 1) ≤ c then countAtMost key size c bits next
    else countAtMost key size c bits count

/-- The last entry of a sorted table whose start is at most `c`. -/
def lastAtMost? {α : Type} (start : α → Nat) (table : Array α) (c : Nat) : Option α :=
  match countAtMost (fun i => (table[i]?.map start).getD 0) table.size c 16 0 with
  | 0 => none
  | n + 1 => table[n]?

/-- What was found is in the table and starts at or before `c`. -/
theorem mem_of_lastAtMost? {α : Type} {start : α → Nat} {table : Array α} {c : Nat} {e : α}
    (h : lastAtMost? start table c = some e) : e ∈ table := by
  unfold lastAtMost? at h
  split at h
  · simp at h
  · exact Array.mem_of_getElem? h

/-- A set of code points, as sorted closed ranges that do not overlap. -/
structure Ranges where
  /-- First and last code point of each range. -/
  bounds : Array (Nat × Nat)

namespace Ranges

/-- The set with the given ranges. -/
def ofList (bounds : List (Nat × Nat)) : Ranges := ⟨bounds.toArray⟩

/-- Whether a range holds the character. -/
def contains (r : Ranges) (c : Char) : Bool :=
  match lastAtMost? (·.1) r.bounds c.toNat with
  | some (_, last) => c.toNat ≤ last
  | none => false

end Ranges

/-- An arithmetic run of a one-to-one map: `first`, `first + step`, …, `last`
go to `target`, `target + step`, …. -/
structure Run where
  first : Nat
  last : Nat
  step : Nat
  target : Nat

/-- A one-to-one map on code points, as runs sorted by their first. -/
structure Runs where
  runs : Array Run

namespace Runs

/-- The map with the given `(first, last, step, target)` runs. -/
def ofList (runs : List (Nat × Nat × Nat × Nat)) : Runs :=
  ⟨(runs.map fun (first, last, step, target) => ⟨first, last, step, target⟩).toArray⟩

/-- The image of a character, if the map moves it. -/
def get? (m : Runs) (c : Char) : Option Char :=
  match lastAtMost? Run.first m.runs c.toNat with
  | some r =>
    if c.toNat ≤ r.last && (c.toNat - r.first) % r.step == 0 then
      some (Char.ofNat (r.target + (c.toNat - r.first)))
    else none
  | none => none

end Runs

/-- A map from single characters to texts, sorted by character. -/
structure Expansions where
  entries : Array (Nat × List Nat)

namespace Expansions

/-- The map with the given code points. -/
def ofList (entries : List (Nat × List Nat)) : Expansions := ⟨entries.toArray⟩

/-- The text that stands for a character, if the map has one. -/
def get? (m : Expansions) (c : Char) : Option (List Char) :=
  match lastAtMost? (·.1) m.entries c.toNat with
  | some (start, text) => if start = c.toNat then some (text.map Char.ofNat) else none
  | none => none

end Expansions

end Bibliography.Text
