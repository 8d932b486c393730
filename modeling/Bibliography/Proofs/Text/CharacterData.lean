import Bibliography.Proofs.Text.Hangul
import Bibliography.Text.Case.Table
import Bibliography.Text.Category.Table
/-!
# What the entries of the character tables have in common

Each statement here is settled by looking through all entries of a table:
decompositions are full, no lower-case form has a lower-case form, compatibility
characters are left for good, and all that combines, Hangul apart, is a mark.
-/

namespace Bibliography.Text

/-! ## The tables -/

/-- All canonical decompositions but those of Hangul syllables. -/
def canonicalEntries : List (Nat × List Nat) :=
  canonicalExpansions ++ runEntries canonicalRuns

/-- All compatibility decompositions that are no canonical ones. -/
def compatibilityEntries : List (Nat × List Nat) :=
  compatibilityExpansions ++ runEntries compatibilityRuns

/-- All lower-case forms, of which capital sigma has two. -/
def lowerEntries : List (Nat × List Nat) :=
  (0x130, [0x69, 0x307]) :: (0x3A3, [0x3C2]) :: (0x3A3, [0x3C3]) :: runEntries lowerRuns

/-- The composites that start with each character. -/
def compositionEntries : List (Nat × List Nat) :=
  compositionPairs.map fun e => (e.1, e.2.map (·.2))

/-- The characters that have a canonical decomposition. -/
def decomposed : CodeSet :=
  keys canonicalEntries ∪ syllables

/-- The combining marks. -/
def markSet : CodeSet :=
  .ofRanges markRanges

/-! ## What their entries have in common -/

/-- A set of characters into which neither decomposing nor composing leads. -/
structure LeftForGood (s : CodeSet) : Prop where
  keepsOut_canonical : KeepsOut s canonicalEntries
  keepsOut_composition : KeepsOut s compositionEntries
  apart_jamo : s.Apart jamo
  apart_syllables : s.Apart syllables
  zero_not_mem : 0 ∉ s

instance (s : CodeSet) : Decidable (LeftForGood s) :=
  decidable_of_iff (KeepsOut s canonicalEntries ∧ KeepsOut s compositionEntries ∧
      s.Apart jamo ∧ s.Apart syllables ∧ 0 ∉ s)
    ⟨fun h => ⟨h.1, h.2.1, h.2.2.1, h.2.2.2.1, h.2.2.2.2⟩, fun h => ⟨h.1, h.2, h.3, h.4, h.5⟩⟩

/-- What the entries of the tables have in common. -/
structure CharacterData : Prop where
  searchable_canonicalExpansions : Searchable (·.1) (·.1) canonicalExpansions
  searchable_canonicalRuns : Searchable (·.1) (·.2.1) canonicalRuns
  searchable_compatibilityExpansions : Searchable (·.1) (·.1) compatibilityExpansions
  searchable_compatibilityRuns : Searchable (·.1) (·.2.1) compatibilityRuns
  searchable_lowerRuns : Searchable (·.1) (·.2.1) lowerRuns
  searchable_letterRanges : Searchable (·.1) (·.2) letterRanges
  searchable_markRanges : Searchable (·.1) (·.2) markRanges
  /-- Canonical decompositions are full. -/
  decomposed_apart_values : decomposed.Apart (values canonicalEntries)
  decomposed_apart_jamo : decomposed.Apart jamo
  decomposed_apart_firsts : decomposed.Apart (.ofRanges [(0, 0xBF)])
  /-- Compatibility decompositions are full. -/
  compatibilityKeys_apart_values : (keys compatibilityEntries).Apart (values compatibilityEntries)
  compatibilityKeys_apart_firsts : (keys compatibilityEntries).Apart (.ofRanges [(0, 0x9F)])
  compatibilityKeys_keepsOut : KeepsOut (keys compatibilityEntries) lowerEntries
  compatibilityKeys_leftForGood : LeftForGood (keys compatibilityEntries)
  /-- Lower-case forms are in lower case. -/
  lowerKeys_apart_values : (keys lowerEntries).Apart (values lowerEntries)
  /-- Of the first 128 characters only those from `A` to `Z` have a lower-case form. -/
  lowerKeys_apart_firsts : (keys lowerEntries).Apart (.ofRanges [(0, 0x40), (0x5B, 0x7F)])
  lowerKeys_leftForGood : LeftForGood (keys lowerEntries)
  markSet_apart_letters : markSet.Apart (.ofRanges letterRanges)
  markSet_apart_jamo : markSet.Apart jamo
  /-- Characters with a combining class are marks. -/
  classes_within_markSet :
    CodeSet.Within (.ofRanges (combiningClassRanges.map fun e => (e.1, e.2.1))) markSet
  /-- Characters that compose with others before them are marks. -/
  seconds_within_markSet :
    CodeSet.Within (.collect (fun e => e.2.map (·.1)) compositionPairs) markSet

-- one theorem, since the sets are large and would all be in memory together otherwise
theorem characterData : CharacterData where
  searchable_canonicalExpansions := by decide +kernel
  searchable_canonicalRuns := by decide +kernel
  searchable_compatibilityExpansions := by decide +kernel
  searchable_compatibilityRuns := by decide +kernel
  searchable_lowerRuns := by decide +kernel
  searchable_letterRanges := by decide +kernel
  searchable_markRanges := by decide +kernel
  decomposed_apart_values := by decide +kernel
  decomposed_apart_jamo := by decide +kernel
  decomposed_apart_firsts := by decide +kernel
  compatibilityKeys_apart_values := by decide +kernel
  compatibilityKeys_apart_firsts := by decide +kernel
  compatibilityKeys_keepsOut := by decide +kernel
  compatibilityKeys_leftForGood := by decide +kernel
  lowerKeys_apart_values := by decide +kernel
  lowerKeys_apart_firsts := by decide +kernel
  lowerKeys_leftForGood := by decide +kernel
  markSet_apart_letters := by decide +kernel
  markSet_apart_jamo := by decide +kernel
  classes_within_markSet := by decide +kernel
  seconds_within_markSet := by decide +kernel

end Bibliography.Text
