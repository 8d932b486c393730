import Bibliography.Query.Tokenizer
/-!
# The parts of a query

A reader takes a run of characters and leaves a rest that stops it
(`takeWhile_dropWhile_iff`). The parts that runs make up are the words, the
phrases and the fields' leads; for each reader of the tokenizer there is one
law to each part that it can meet.
-/

namespace Bibliography.Query

open Text (isBlank blank)

/-! ## Runs of characters -/

/-- The text is over here or goes on with a character outside the class. -/
def Stops (p : Char → Bool) (rest : List Char) : Prop :=
  ∀ c ∈ rest.head?, p c = false

section Runs

variable {p q : Char → Bool} {c : Char} {cs run rest : List Char}

@[simp] theorem stops_nil : Stops p [] := by
  simp [Stops]

@[simp] theorem stops_cons : Stops p (c :: rest) ↔ p c = false := by
  simp [Stops]

theorem Stops.mono (hpq : ∀ c, p c = false → q c = false) (h : Stops p rest) : Stops q rest :=
  fun c hc => hpq c (h c hc)

/-- What stops a class still stops it when more text follows that does. -/
theorem Stops.append (h : Stops p run) (hrest : Stops p rest) : Stops p (run ++ rest) := by
  cases run with
  | nil => exact hrest
  | cons c run => exact stops_cons.2 (stops_cons.1 h)

theorem stops_dropWhile : Stops p (cs.dropWhile p) := by
  have h := List.head?_dropWhile_not p cs
  intro c hc
  rw [Option.mem_def.1 hc] at h
  exact h

/-- **A class cuts a text in one way only**: into characters of the class
and a rest that stops it. -/
theorem takeWhile_dropWhile_iff :
    cs.takeWhile p = run ∧ cs.dropWhile p = rest ↔
      cs = run ++ rest ∧ (∀ c ∈ run, p c = true) ∧ Stops p rest := by
  constructor
  · rintro ⟨rfl, rfl⟩
    exact ⟨List.takeWhile_append_dropWhile.symm, List.all_eq_true.1 List.all_takeWhile,
      stops_dropWhile⟩
  · rintro ⟨rfl, hrun, hrest⟩
    rw [List.takeWhile_append_of_pos hrun, List.dropWhile_append_of_pos hrun]
    cases rest with
    | nil => simp
    | cons c rest => simp [stops_cons.1 hrest]

end Runs

/-! ## The parts of a query -/

/-- A word: characters outside quotes, and at least one of them. -/
def IsWord (w : List Char) : Prop :=
  w ≠ [] ∧ ∀ c ∈ w, isBare c = true

instance (w : List Char) : Decidable (IsWord w) :=
  decidable_of_iff (w ≠ [] ∧ w.all isBare = true) (by rw [IsWord, List.all_eq_true])

/-- What can stand in quotes: not blank, and without a quote. -/
def IsPhrase (v : List Char) : Prop :=
  '"' ∉ v ∧ blank v = false

instance (v : List Char) : Decidable (IsPhrase v) :=
  inferInstanceAs (Decidable ('"' ∉ v ∧ blank v = false))

/-- A text in quotes. -/
def inQuotes (v : List Char) : List Char :=
  '"' :: v ++ ['"']

/-- What stands before a field's value: its name and the colon. -/
def Field.lead (f : Field) : List Char :=
  f.name.toList ++ [':']

/-- After an opening quote, no phrase follows: no quote closes it, or there
is nothing but blanks up to the one that does. -/
def OpensNoPhrase (rest : List Char) : Prop :=
  ∀ v after, rest = v ++ '"' :: after → '"' ∉ v → blank v = true

@[simp] theorem raw_token (raw value : List Char) (field : Option Field) (isPhrase : Bool) :
    (token raw value field isPhrase).raw.toList = raw := by
  simp [token]

section Parts

variable {f : Field} {v w rest after : List Char}

theorem isBare_eq_false_of_isBlank {c : Char} (h : isBlank c = true) : isBare c = false := by
  simp [isBare, h]

theorem isBlank_eq_false_of_isBare {c : Char} (h : isBare c = true) : isBlank c = false := by
  simp only [isBare, Bool.and_eq_true, Bool.not_eq_true'] at h
  exact h.1

theorem quote_notMem_of_isBare (h : ∀ c ∈ w, isBare c = true) : '"' ∉ w :=
  fun hq => absurd (h _ hq) (by decide)

theorem quote_notMem_of_blank (h : blank v = true) : '"' ∉ v :=
  fun hq => absurd (List.all_eq_true.1 h _ hq) (by decide)

/-- What ends a word at a blank ends it as a run of bare characters. -/
theorem stops_isBare (h : Stops (!isBlank ·) rest) : Stops isBare rest :=
  h.mono fun _ hc => isBare_eq_false_of_isBlank (by simpa using hc)

theorem isBare_of_mem_lead {c : Char} (h : c ∈ f.lead) : isBare c = true := by
  have hall : f.lead.all isBare = true := by cases f <;> decide
  exact List.all_eq_true.1 hall c h

theorem isNameChar_of_mem_name {c : Char} (h : c ∈ f.name.toList) : isNameChar c = true := by
  have hall : f.name.toList.all isNameChar = true := by cases f <;> decide
  exact List.all_eq_true.1 hall c h

theorem inQuotes_append : inQuotes v ++ rest = '"' :: (v ++ '"' :: rest) := by
  simp [inQuotes]

theorem lead_ne_nil : f.lead ≠ [] := by
  simp [Field.lead]

/-- The two parts of a text that starts with a field's name and a colon. -/
theorem name_run (f : Field) (tail : List Char) :
    (f.lead ++ tail).takeWhile isNameChar = f.name.toList ∧
      (f.lead ++ tail).dropWhile isNameChar = ':' :: tail := by
  refine takeWhile_dropWhile_iff.2 ⟨by simp [Field.lead], fun c => isNameChar_of_mem_name, ?_⟩
  exact stops_cons.2 (by decide)

/-- A quote is found where the text holds one, at the first. -/
theorem untilQuote?_eq_some_iff :
    untilQuote? rest = some (v, after) ↔ rest = v ++ '"' :: after ∧ '"' ∉ v := by
  unfold untilQuote?
  constructor
  · intro h
    split at h
    · next c tail hd =>
      obtain ⟨rfl, rfl⟩ := by simpa using h
      obtain ⟨hsplit, hrun, hstop⟩ := takeWhile_dropWhile_iff.1 ⟨rfl, hd⟩
      have hc : c = '"' := by simpa using hstop
      exact ⟨hc ▸ hsplit, fun hq => by simpa using hrun _ hq⟩
    · simp at h
  · rintro ⟨hsplit, hv⟩
    have hrun : ∀ c ∈ v, (c != '"') = true := by
      intro c hc
      simpa using ne_of_mem_of_not_mem hc hv
    obtain ⟨ht, hd⟩ := takeWhile_dropWhile_iff.2 ⟨hsplit, hrun, stops_cons.2 (by decide)⟩
    rw [hd, ht]

theorem untilQuote?_eq_none_iff : untilQuote? rest = none ↔ '"' ∉ rest := by
  rw [Option.eq_none_iff_forall_ne_some]
  constructor
  · intro h hq
    obtain ⟨v, after, hsplit, hv⟩ := List.eq_append_cons_of_mem hq
    exact h (v, after) (untilQuote?_eq_some_iff.2 ⟨hsplit, hv⟩)
  · rintro hq ⟨v, after⟩ h
    rw [untilQuote?_eq_some_iff] at h
    exact hq (by simp [h.1])

end Parts

/-! ## The value of a field -/

section Values

variable {name v w rest cs : List Char} {f : Field}

theorem readValue?_word (hw : IsWord w) (hrest : Stops isBare rest) :
    readValue? name f (w ++ rest) = some (some (token (name ++ ':' :: w) w (some f) false), rest) := by
  obtain ⟨hne, hbare⟩ := hw
  obtain ⟨ht, hd⟩ := takeWhile_dropWhile_iff.2 ⟨rfl, hbare, hrest⟩
  cases w with
  | nil => exact absurd rfl hne
  | cons c w =>
    have hc : isBare c = true := hbare c (by simp)
    have hblank := isBlank_eq_false_of_isBare hc
    have hquote : c ≠ '"' := by rintro rfl; exact absurd hc (by decide)
    rw [List.cons_append] at ht hd ⊢
    simp only [readValue?, hblank, hquote, if_false, Bool.false_eq_true, ht, hd]

theorem readValue?_phrase (hv : IsPhrase v) :
    readValue? name f (inQuotes v ++ rest) =
      some (some (token (name ++ ':' :: inQuotes v) v (some f) true), rest) := by
  have hq : untilQuote? (v ++ '"' :: rest) = some (v, rest) :=
    untilQuote?_eq_some_iff.2 ⟨rfl, hv.1⟩
  rw [inQuotes_append, readValue?, if_neg (by decide), if_pos rfl, hq]
  simp [hv.2, inQuotes]

theorem readValue?_stop (h : Stops (!isBlank ·) rest) : readValue? name f rest = some (none, rest) := by
  cases rest with
  | nil => rfl
  | cons c rest => rw [readValue?, if_pos (by simpa using h)]

theorem readValue?_noPhrase (h : OpensNoPhrase rest) : readValue? name f ('"' :: rest) = none := by
  rw [readValue?, if_neg (by decide), if_pos rfl]
  cases hq : untilQuote? rest with
  | none => rfl
  | some found =>
    obtain ⟨v, after⟩ := found
    obtain ⟨hsplit, hv⟩ := untilQuote?_eq_some_iff.1 hq
    simp [h v after hsplit hv]

/-- Where a field stands, its value is read. -/
theorem readFieldValue?_lead : readFieldValue? (f.lead ++ rest) = readValue? f.name.toList f rest := by
  rw [readFieldValue?, (name_run f rest).1, (name_run f rest).2, String.ofList_toList,
    Field.ofName?_eq_some_iff.2 rfl]
  rfl

/-- And elsewhere no field's value is read. -/
theorem readFieldValue?_eq_none (h : ∀ (f : Field) tail, cs ≠ f.lead ++ tail) :
    readFieldValue? cs = none := by
  unfold readFieldValue?
  split
  · next tail f hd hf =>
    refine absurd ?_ (h f tail)
    have hname : cs.takeWhile isNameChar = f.name.toList := by
      rw [Field.ofName?_eq_some_iff.1 hf, String.toList_ofList]
    obtain ⟨hsplit, -, -⟩ := takeWhile_dropWhile_iff.1 ⟨hname, hd⟩
    simpa [Field.lead] using hsplit
  · rfl

end Values

/-! ## Words and phrases -/

section Free

variable {v w rest : List Char}

theorem readFree_word (hw : IsWord w) (hrest : Stops isBare rest) :
    readFree (w ++ rest) = (some (token w w none false), rest) := by
  obtain ⟨hne, hbare⟩ := hw
  obtain ⟨ht, hd⟩ := takeWhile_dropWhile_iff.2 ⟨rfl, hbare, hrest⟩
  unfold readFree
  split
  · next inner heq =>
    cases w with
    | nil => exact absurd rfl hne
    | cons c w =>
      obtain ⟨rfl, -⟩ := List.cons.inj heq
      exact absurd (hbare '"' (by simp)) (by decide)
  · simp only [ht, hd]

theorem readFree_phrase (hv : IsPhrase v) :
    readFree (inQuotes v ++ rest) = (some (token (inQuotes v) v none true), rest) := by
  have hq : untilQuote? (v ++ '"' :: rest) = some (v, rest) :=
    untilQuote?_eq_some_iff.2 ⟨rfl, hv.1⟩
  rw [inQuotes_append, readFree, hq]
  simp [hv.2, inQuotes]

theorem readFree_blank (hv : blank v = true) : readFree (inQuotes v ++ rest) = (none, rest) := by
  have hq : untilQuote? (v ++ '"' :: rest) = some (v, rest) :=
    untilQuote?_eq_some_iff.2 ⟨rfl, quote_notMem_of_blank hv⟩
  rw [inQuotes_append, readFree, hq]
  simp [hv]

theorem readFree_unclosed (hw : ∀ c ∈ w, isBlank c = false) (hq : '"' ∉ w ++ rest)
    (hrest : Stops (!isBlank ·) rest) :
    readFree ('"' :: (w ++ rest)) = (some (token ('"' :: w) ('"' :: w) none false), rest) := by
  have hrun : ∀ c ∈ w, (!isBlank c) = true := fun c hc => by simp [hw c hc]
  obtain ⟨ht, hd⟩ := takeWhile_dropWhile_iff.2 ⟨rfl, hrun, hrest⟩
  rw [readFree, untilQuote?_eq_none_iff.2 hq]
  simp only [ht, hd]

end Free

end Bibliography.Query
