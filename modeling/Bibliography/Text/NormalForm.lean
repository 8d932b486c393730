import Bibliography.Text.Lookup
import Bibliography.Text.Decomposition.Canonical
import Bibliography.Text.Decomposition.Compatibility
import Bibliography.Text.Decomposition.Composition
/-!
# Normal forms

Canonical and compatibility decomposition, the canonical order of
combining characters, and composition. `nfd` decomposes and orders, `nfc`
composes again, and `nfkc` composes after compatibility decomposition.
Hangul syllables are decomposed and composed by arithmetic.
-/

namespace Bibliography.Text

/-! ## Hangul -/

/-- The first Hangul syllable; syllables follow in the order of their
leading consonant, vowel and trailing consonant. -/
def hangulBase : Nat := 0xAC00
/-- One before the first trailing consonant. -/
def hangulTrailBase : Nat := 0x11A7
def hangulLeadBase : Nat := 0x1100
def hangulVowelBase : Nat := 0x1161

/-- The leading consonant, vowel and, where there is one, trailing consonant
of a Hangul syllable. -/
def hangulParts? (c : Char) : Option (List Char) :=
  if hangulBase ≤ c.toNat && c.toNat < hangulBase + 19 * 21 * 28 then
    let index := c.toNat - hangulBase
    let lead := Char.ofNat (hangulLeadBase + index / (21 * 28))
    let vowel := Char.ofNat (hangulVowelBase + index % (21 * 28) / 28)
    if index % 28 = 0 then some [lead, vowel]
    else some [lead, vowel, Char.ofNat (hangulTrailBase + index % 28)]
  else none

/-- The syllable of a leading consonant and a vowel, or of a syllable without
a trailing consonant and a trailing consonant. -/
def hangulCompose? (a b : Char) : Option Char :=
  if hangulLeadBase ≤ a.toNat && a.toNat < hangulLeadBase + 19 &&
      hangulVowelBase ≤ b.toNat && b.toNat < hangulVowelBase + 21 then
    some (Char.ofNat (hangulBase +
      ((a.toNat - hangulLeadBase) * 21 + (b.toNat - hangulVowelBase)) * 28))
  else if hangulBase ≤ a.toNat && a.toNat < hangulBase + 19 * 21 * 28 &&
      (a.toNat - hangulBase) % 28 = 0 &&
      hangulTrailBase < b.toNat && b.toNat < hangulTrailBase + 28 then
    some (Char.ofNat (a.toNat + (b.toNat - hangulTrailBase)))
  else none

/-! ## Decomposition -/

def canonicalSingles : Runs := .ofList canonicalRuns
def canonicalTexts : Expansions := .ofList canonicalExpansions
def compatibilitySingles : Runs := .ofList compatibilityRuns
def compatibilityTexts : Expansions := .ofList compatibilityExpansions

/-- The full canonical decomposition of a character. -/
def canonical (c : Char) : List Char :=
  if c.toNat < 0xC0 then [c]
  else match hangulParts? c with
    | some parts => parts
    | none => match canonicalTexts.get? c with
      | some cs => cs
      | none => [(canonicalSingles.get? c).getD c]

/-- The full compatibility decomposition of a character. -/
def compatibility (c : Char) : List Char :=
  if c.toNat < 0xA0 then [c]
  else match compatibilityTexts.get? c with
    | some cs => cs
    | none => match compatibilitySingles.get? c with
      | some d => [d]
      | none => canonical c

/-! ## Canonical order -/

def combiningClasses : Array (Nat × Nat × Nat) := combiningClassRanges.toArray

/-- The canonical combining class; zero for a character that starts a
combining sequence. -/
def combiningClass (c : Char) : Nat :=
  if c.toNat < 0x300 then 0
  else match lastAtMost? (·.1) combiningClasses c.toNat with
    | some (_, last, value) => if c.toNat ≤ last then value else 0
    | none => 0

/-- Puts a character before an ordered text, moving it behind the combining
characters of lower classes that stand there. -/
def insertByClass (c : Char) : List Char → List Char
  | [] => [c]
  | d :: rest =>
    if combiningClass d ≠ 0 && combiningClass d < combiningClass c then d :: insertByClass c rest
    else c :: d :: rest

/-- The canonical order: within each run of combining characters, by class,
and equal classes as they stood. -/
def canonicalOrder (cs : List Char) : List Char :=
  cs.foldr insertByClass []

/-! ## Composition -/

def compositionTable : Array (Nat × List (Nat × Nat)) := compositionPairs.toArray

/-- The primary composite of two characters. -/
def composePair? (a b : Char) : Option Char :=
  match hangulCompose? a b with
  | some c => some c
  | none =>
    match lastAtMost? (·.1) compositionTable a.toNat with
    | some (first, seconds) =>
      if first = a.toNat then (seconds.lookup b.toNat).map Char.ofNat else none
    | none => none

/-- Composes a character with what follows it. `barrier` is the class of the
last character passed over, zero if there is none: what comes later is out
of reach unless its class is higher. Gives the composite and what is left. -/
def absorb (base : Char) (barrier : Nat) : List Char → Char × List Char
  | [] => (base, [])
  | d :: rest =>
    let cls := combiningClass d
    let keep (cls : Nat) :=
      let (base', rest') := absorb base cls rest
      (base', d :: rest')
    if barrier ≠ 0 && cls = 0 then (base, d :: rest)
    else if barrier ≠ 0 && cls ≤ barrier then keep barrier
    else match composePair? base d with
      | some c => absorb c barrier rest
      | none => if cls = 0 then (base, d :: rest) else keep cls

theorem length_absorb_le (base : Char) (barrier : Nat) (cs : List Char) :
    (absorb base barrier cs).2.length ≤ cs.length := by
  induction cs generalizing base barrier with
  | nil => simp [absorb]
  | cons d rest ih =>
    simp only [absorb]
    split
    · simp
    · split
      · simpa using ih base barrier
      · split
        · exact Nat.le_succ_of_le (ih _ barrier)
        · split
          · simp
          · simpa using ih base (combiningClass d)

/-- Composes an ordered decomposed text. -/
def compose : List Char → List Char
  | [] => []
  | c :: rest =>
    (absorb c 0 rest).1 :: compose (absorb c 0 rest).2
termination_by cs => cs.length
decreasing_by
  have := length_absorb_le c 0 rest
  simp only [List.length_cons]
  omega

/-! ## The normal forms -/

/-- Canonical decomposition. -/
def nfd (cs : List Char) : List Char :=
  canonicalOrder (cs.flatMap canonical)

/-- Canonical composition. -/
def nfc (cs : List Char) : List Char :=
  compose (nfd cs)

/-- Compatibility composition. -/
def nfkc (cs : List Char) : List Char :=
  compose (canonicalOrder (cs.flatMap compatibility))

end Bibliography.Text
