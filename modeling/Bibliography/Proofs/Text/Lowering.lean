import Bibliography.Text.Acronym
/-!
# Lower case in its surroundings

Only a capital sigma looks at what stands around it: at the end of a word it
becomes a final one. So a text that stands within another has its own
lower-case form there unless one of its sigmas ends a word in one of the two
and not in the other (`KeepsSigmas`, `isInfix_lower`). What is found as it
stands is then found in lower case too (`isFoundIn_of_append`).
-/

namespace Bibliography.Text

/-! ## Nothing is lost in lower case -/

section Lower

variable {before cs : List Char} {c : Char}

theorem lowerChar_ne_nil : lowerChar c ≠ [] := by
  unfold lowerChar
  split
  · simp
  · split <;> simp

/-- A text in lower case is empty only if it was. -/
theorem lower_eq_nil_iff : lower cs = [] ↔ cs = [] := by
  cases cs with
  | nil => simp [lower, lowerFrom]
  | cons c rest =>
    rw [lower, lowerFrom]
    split
    · split <;> simp
    · simp [lowerChar_ne_nil]

end Lower

/-! ## Sigmas -/

/-- Whether a capital sigma between two texts ends a word. The text before it
is given from its last character to its first. -/
def endsWord (before after : List Char) : Bool :=
  meetsCased before && !meetsCased after

/-- **Each capital sigma of a text that stands between two others** ends a
word there just if it does where the text stands alone. -/
def KeepsSigmas (front text back : List Char) : Prop :=
  ∀ u w, text = u ++ 'Σ' :: w →
    endsWord ((front ++ u).reverse) (w ++ back) = endsWord u.reverse w

section Sigmas

variable {before before' front text back cs : List Char} {c : Char}

theorem lowerFrom_cons :
    lowerFrom before (c :: cs) =
      (if c = 'Σ' then (if endsWord before cs then ['ς'] else ['σ']) else lowerChar c) ++
        lowerFrom (c :: before) cs :=
  rfl

/-- What stands behind a text has its lower-case form behind the text's. -/
theorem exists_lowerFrom_append (before front cs : List Char) :
    ∃ start, lowerFrom before (front ++ cs) = start ++ lowerFrom (front.reverse ++ before) cs := by
  induction front generalizing before with
  | nil => exact ⟨[], rfl⟩
  | cons c front ih =>
    obtain ⟨start, hstart⟩ := ih (c :: before)
    rw [List.cons_append, lowerFrom_cons, hstart, List.reverse_cons, List.append_assoc]
    exact ⟨_, (List.append_assoc ..).symm⟩

/-- Behind two texts that decide alike about each sigma, and with or without a
text that follows, the lower-case form is the same. -/
theorem lowerFrom_append (before before' : List Char)
    (h : ∀ u w, text = u ++ 'Σ' :: w →
      endsWord (u.reverse ++ before) (w ++ back) = endsWord (u.reverse ++ before') w) :
    lowerFrom before (text ++ back) =
      lowerFrom before' text ++ lowerFrom (text.reverse ++ before) back := by
  induction text generalizing before before' with
  | nil => rfl
  | cons c text ih =>
    have hform : (if c = 'Σ' then (if endsWord before (text ++ back) then ['ς'] else ['σ'])
          else lowerChar c) =
        if c = 'Σ' then (if endsWord before' text then ['ς'] else ['σ']) else lowerChar c := by
      -- only a sigma looks around itself, and about that one the texts agree
      by_cases hc : c = 'Σ'
      · have hends : endsWord before (text ++ back) = endsWord before' text := h [] text (by rw [hc]; rfl)
        rw [hends]
      · rw [if_neg hc, if_neg hc]
    have hrest := ih (c :: before) (c :: before') fun u w huw => by
      have hcons := h (c :: u) w (by rw [huw]; rfl)
      simpa using hcons
    rw [List.cons_append, lowerFrom_cons, lowerFrom_cons, hform, hrest, List.reverse_cons,
      List.append_assoc, List.append_assoc]
    rfl

/-- **A text keeps its lower-case form within another** where each of its
sigmas ends a word just if it does alone. -/
theorem isInfix_lower (h : KeepsSigmas front text back) :
    lower text <:+: lower (front ++ text ++ back) := by
  obtain ⟨start, hstart⟩ := exists_lowerFrom_append [] front (text ++ back)
  have htext : lowerFrom (front.reverse ++ []) (text ++ back) =
      lowerFrom [] text ++ lowerFrom (text.reverse ++ (front.reverse ++ [])) back :=
    lowerFrom_append _ _ fun u w huw => by simpa using h u w huw
  exact ⟨start, lowerFrom (text.reverse ++ (front.reverse ++ [])) back, by
    rw [lower, lower, List.append_assoc front, hstart, htext, List.append_assoc]⟩

end Sigmas

/-! ## Looking for a text -/

section Found

variable {query candidate piece front back : List Char}

/-- A text occurs in another when it stands there in one piece. -/
theorem occursIn_iff : occursIn piece candidate = true ↔ piece <:+: candidate := by
  induction candidate with
  | nil => simp [occursIn]
  | cons c rest ih =>
    rw [occursIn, Bool.or_eq_true, ih, List.isPrefixOf_iff_prefix, List.infix_cons_iff]

/-- **What stands in a text is found there**: if it has an acronym, or if each
of its sigmas ends a word just if it does alone. -/
theorem isFoundIn_of_append (h : hasAcronym query = true ∨ KeepsSigmas front query back) :
    isFoundIn query (front ++ query ++ back) = true := by
  unfold isFoundIn
  split
  · exact occursIn_iff.2 (List.infix_append ..)
  · next hacronym => exact occursIn_iff.2 (isInfix_lower (h.resolve_left hacronym))

/-- Every text is found in itself. -/
theorem isFoundIn_self : isFoundIn query query = true := by
  have h : isFoundIn query ([] ++ query ++ []) = true :=
    isFoundIn_of_append (.inr fun u w _ => by simp)
  simpa using h

end Found

end Bibliography.Text
