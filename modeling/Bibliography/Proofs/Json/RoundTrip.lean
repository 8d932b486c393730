import Bibliography.Proofs.Json.Members
import Bibliography.Proofs.Json.Parser
import Bibliography.Proofs.Json.Spelling
/-!
# Writing JSON and reading it again

What a text can say is a value of a certain form (`readable_of_isText`), and a
value of this form is read from the text that is written for it
(`parse_pretty`), whatever line breaks there are.
-/

namespace Bibliography.Json

/-! ## The values of texts -/

/-- The form of the values that text can have: no integer is too long, no
number too exact, and no key stands twice in an object. -/
inductive Readable : Json → Prop
  | null : Readable .null
  | bool (b : Bool) : Readable (.bool b)
  | int {n : Int} (h : (Number.decimalDigits n.natAbs).length ≤ Number.maxDigits) :
      Readable (.int n)
  | real {x : Binary64} (h : x.IsDouble) : Readable (.real x)
  | str (s : String) : Readable (.str s)
  | arr {items : List Json} (h : ∀ v ∈ items, Readable v) : Readable (.arr items)
  | obj {members : List (String × Json)} (hkeys : (members.map (·.1)).Nodup)
      (h : ∀ m ∈ members, Readable m.2) : Readable (.obj members)

theorem readable_of_mem_literals {name : List Char} {v : Json} (h : (name, v) ∈ Token.literals) :
    Readable v := by
  simp only [Token.literals, List.mem_cons, Prod.mk.injEq, List.not_mem_nil, or_false] at h
  rcases h with ⟨-, rfl⟩ | ⟨-, rfl⟩ | ⟨-, rfl⟩ | ⟨-, rfl⟩ | ⟨-, rfl⟩ | ⟨-, rfl⟩
  · exact .null
  · exact .bool true
  · exact .bool false
  · exact .real trivial
  · exact .real trivial
  · exact .real trivial

theorem readable_of_spells {v : Json} {text : List Char} (h : Token.Spells (.scalar v) text) :
    Readable v := by
  generalize ht : Token.scalar v = t at h
  cases h with
  | mark hmem => simp [Token.marks, ← ht] at hmem
  | literal hmem =>
    obtain rfl := Token.scalar.inj ht
    exact readable_of_mem_literals hmem
  | number hds hfs hpower =>
    unfold Token.number at ht
    split at ht
    · cases ht
    · obtain rfl := Token.scalar.inj ht
      exact .real Binary64.isDouble_ofDecimal
  | str => cases ht

theorem isWhole_of_spells {negative : Bool} {ds text : List Char}
    (h : Token.Spells (.integer negative ds) text) : IsWhole ds := by
  generalize ht : Token.integer negative ds = t at h
  cases h with
  | mark hmem => simp [Token.marks, ← ht] at hmem
  | literal => cases ht
  | number hds hfs hpower =>
    unfold Token.number at ht
    split at ht
    · obtain ⟨-, rfl⟩ := Token.integer.inj ht
      exact hds
    · cases ht
  | str => cases ht

theorem spells_of_mem_writes {ts : List Token} {cs : List Char} {t : Token} (h : Writes ts cs)
    (ht : t ∈ ts) : ∃ text, t.Spells text := by
  induction h with
  | nil => cases ht
  | gap _ _ ih => exact ih ht
  | token hspells _ ih =>
    rcases List.mem_cons.1 ht with rfl | ht
    · exact ⟨_, hspells⟩
    · exact ih ht

/-- The tokens of a part are tokens of the whole. -/
theorem mem_separated {parts : List (List Token)} {part : List Token} {t : Token}
    (hpart : part ∈ parts) (ht : t ∈ part) : t ∈ separated parts := by
  induction parts with
  | nil => cases hpart
  | cons first rest ih =>
    cases rest with
    | nil =>
      obtain rfl := List.mem_singleton.1 hpart
      rwa [separated_singleton]
    | cons next rest =>
      rw [separated_cons]
      rcases List.mem_cons.1 hpart with rfl | hpart
      · exact List.mem_append_left _ ht
      · exact List.mem_append_right _ (List.mem_cons_of_mem _ (ih hpart))

theorem readable_integerOf {negative : Bool} {ds : List Char} (hds : IsWhole ds)
    (hlength : ds.length ≤ Number.maxDigits) : Readable (.int (integerOf negative ds)) := by
  have hvalue : (integerOf negative ds).natAbs = Number.ofDigits 10 ds := by
    cases negative <;> simp [integerOf]
  refine .int (Nat.le_trans ?_ hlength)
  rw [hvalue]
  exact Number.length_decimalDigits_ofDigits hds.ne_nil hds.isDigit

theorem Phrase.readable {ts : List Token} {v : Json} (h : Phrase ts v)
    (hspelled : ∀ t ∈ ts, ∃ text, t.Spells text) : Readable v := by
  induction h with
  | scalar v =>
    obtain ⟨text, htext⟩ := hspelled _ (List.mem_singleton_self _)
    exact readable_of_spells htext
  | str s => exact .str s
  | integer negative hlength =>
    obtain ⟨text, htext⟩ := hspelled _ (List.mem_singleton_self _)
    exact readable_integerOf (isWhole_of_spells htext) hlength
  | arr items hitems ih =>
    refine .arr fun v hv => ?_
    obtain ⟨item, hitem, rfl⟩ := List.mem_map.1 hv
    refine ih item hitem fun t ht => hspelled t ?_
    have hinside := mem_separated (List.mem_map_of_mem hitem) ht
    exact List.mem_cons_of_mem _ (List.mem_append_left _ hinside)
  | obj members hmembers ih =>
    refine .obj (Members.nodup_keys_ofList _) fun entry hentry => ?_
    obtain ⟨m, hm, rfl⟩ := List.mem_map.1 (Members.mem_of_mem_ofList hentry)
    refine ih m hm fun t ht => hspelled t ?_
    have hphrase : t ∈ m.phrase := List.mem_cons_of_mem _ (List.mem_cons_of_mem _ ht)
    have hinside := mem_separated (List.mem_map_of_mem hm) hphrase
    exact List.mem_cons_of_mem _ (List.mem_append_left _ hinside)

/-- **The value of a text is of this form.** -/
theorem readable_of_isText {cs : List Char} {v : Json} (h : IsText cs v) : Readable v := by
  obtain ⟨ts, hwrites, hphrase⟩ := h
  exact hphrase.readable fun t ht => spells_of_mem_writes hwrites ht

/-! ## The text of a value -/

section Written

variable {newLine : Nat → List Char}

/-- Line breaks and indentation. -/
def IsGap (newLine : Nat → List Char) : Prop :=
  ∀ depth, ∀ c ∈ newLine depth, Token.isSpace c = true

theorem isGap_newLine : IsGap Json.newLine := by
  intro depth c hc
  rcases List.mem_cons.1 hc with rfl | hc
  · rfl
  · rw [List.eq_of_mem_replicate hc]
    rfl

/-- That what is written at any depth is text of the value. -/
def IsWritten (newLine : Nat → List Char) (v : Json) : Prop :=
  ∀ depth, IsText (textAt newLine depth v) v

theorem separated_eq (part : List Token) (parts : List (List Token)) :
    separated (part :: parts) = part ++ parts.flatMap (.comma :: ·) := by
  induction parts generalizing part with
  | nil => simp [separated]
  | cons next parts ih =>
    rw [separated_cons, ih]
    simp

theorem writes_mark {c : Char} {t : Token} (h : (c, t) ∈ Token.marks) : Writes [t] [c] :=
  (Token.Spells.mark h).writes

theorem writes_itemsText (hgap : IsGap newLine) {items : List Json} (depth : Nat)
    (h : ∀ v ∈ items, IsWritten newLine v) :
    ∃ parts : List (List Token × Json), parts.map (·.2) = items ∧
      (∀ i ∈ parts, Phrase i.1 i.2) ∧
      Writes ((parts.map (·.1)).flatMap (.comma :: ·)) (itemsText newLine depth items) := by
  induction items with
  | nil => exact ⟨[], rfl, nofun, .nil⟩
  | cons v items ih =>
    obtain ⟨hv, hitems⟩ := List.forall_mem_cons.1 h
    obtain ⟨ts, hwrites, hphrase⟩ := hv depth
    obtain ⟨parts, rfl, hparts, hrest⟩ := ih hitems
    refine ⟨(ts, v) :: parts, rfl, List.forall_mem_cons.2 ⟨hphrase, hparts⟩, ?_⟩
    have hcomma : Writes [.comma] [','] := writes_mark (by simp [Token.marks])
    have hmore := hcomma.append ((writes_gap (hgap depth)).append (hwrites.append hrest))
    simpa [itemsText] using hmore

/-- The text of a member behind its key. -/
theorem writes_member {k : String} {ts : List Token} {cs : List Char} (h : Writes ts cs) :
    Writes (.str k :: .colon :: ts) (stringText k ++ (':' :: ' ' :: cs)) := by
  have hcolon : Writes [.colon] [':'] := writes_mark (by simp [Token.marks])
  exact (spells_stringText k).writes.append (hcolon.append (.gap rfl h))

theorem writes_membersText (hgap : IsGap newLine) {entries : List (String × Json)} (depth : Nat)
    (h : ∀ m ∈ entries, IsWritten newLine m.2) :
    ∃ members : List Member, members.map Member.entry = entries ∧
      (∀ m ∈ members, Phrase m.tokens m.value) ∧
      Writes ((members.map Member.phrase).flatMap (.comma :: ·))
        (membersText newLine depth entries) := by
  induction entries with
  | nil => exact ⟨[], rfl, nofun, .nil⟩
  | cons entry entries ih =>
    obtain ⟨k, v⟩ := entry
    obtain ⟨hv, hentries⟩ := List.forall_mem_cons.1 h
    obtain ⟨ts, hwrites, hphrase⟩ := hv depth
    obtain ⟨members, rfl, hmembers, hrest⟩ := ih hentries
    refine ⟨⟨k, ts, v⟩ :: members, rfl, List.forall_mem_cons.2 ⟨hphrase, hmembers⟩, ?_⟩
    have hcomma : Writes [.comma] [','] := writes_mark (by simp [Token.marks])
    have hmore := hcomma.append ((writes_gap (hgap depth)).append
      ((writes_member (k := k) hwrites).append hrest))
    simpa [membersText, Member.phrase] using hmore

/-- The text of a value with nothing inside it. -/
theorem isWritten_leaf {v : Json} {t : Token} (htext : ∀ depth, textAt newLine depth v = leafText v)
    (h : t.Spells (leafText v)) (hphrase : Phrase [t] v) : IsWritten newLine v := by
  intro depth
  rw [htext]
  exact ⟨[t], h.writes, hphrase⟩

theorem isWritten_arr (hgap : IsGap newLine) {items : List Json}
    (h : ∀ v ∈ items, IsWritten newLine v) : IsWritten newLine (.arr items) := by
  intro depth
  have hopen : Writes [.openArr] ['['] := writes_mark (by simp [Token.marks])
  have hclose : Writes [.closeArr] [']'] := writes_mark (by simp [Token.marks])
  cases items with
  | nil => exact ⟨_, hopen.append hclose, .arr [] (List.forall_mem_nil _)⟩
  | cons v items =>
    obtain ⟨hv, hitems⟩ := List.forall_mem_cons.1 h
    obtain ⟨ts, hwrites, hphrase⟩ := hv (depth + 1)
    obtain ⟨parts, rfl, hparts, hrest⟩ := writes_itemsText hgap (depth + 1) hitems
    refine ⟨_, ?_, .arr ((ts, v) :: parts) (List.forall_mem_cons.2 ⟨hphrase, hparts⟩)⟩
    rw [arrPhrase, List.map_cons, separated_eq]
    have hmore := hopen.append ((writes_gap (hgap (depth + 1))).append (hwrites.append
      (hrest.append ((writes_gap (hgap depth)).append hclose))))
    simpa [textAt] using hmore

theorem isWritten_obj (hgap : IsGap newLine) {entries : List (String × Json)}
    (hkeys : (entries.map (·.1)).Nodup) (h : ∀ m ∈ entries, IsWritten newLine m.2) :
    IsWritten newLine (.obj entries) := by
  intro depth
  have hopen : Writes [.openObj] ['\x7b'] := writes_mark (by simp [Token.marks])
  have hclose : Writes [.closeObj] ['\x7d'] := writes_mark (by simp [Token.marks])
  cases entries with
  | nil => exact ⟨_, hopen.append hclose, .obj [] (List.forall_mem_nil _)⟩
  | cons entry entries =>
    obtain ⟨k, v⟩ := entry
    obtain ⟨hv, hentries⟩ := List.forall_mem_cons.1 h
    obtain ⟨ts, hwrites, hphrase⟩ := hv (depth + 1)
    obtain ⟨members, rfl, hmembers, hrest⟩ := writes_membersText hgap (depth + 1) hentries
    -- no key comes twice, so that the members stay as they are when they are read
    have hobject := Phrase.obj (⟨k, ts, v⟩ :: members)
      (List.forall_mem_cons.2 ⟨hphrase, hmembers⟩)
    rw [Members.ofList_eq_self (by simpa [Member.entry] using hkeys)] at hobject
    refine ⟨_, ?_, hobject⟩
    rw [objPhrase, List.map_cons, separated_eq]
    have hmore := hopen.append ((writes_gap (hgap (depth + 1))).append
      ((writes_member (k := k) hwrites).append
        (hrest.append ((writes_gap (hgap depth)).append hclose))))
    simpa [textAt, Member.phrase, Member.entry] using hmore

/-- **What is written for a value is text of it**, at every depth and with any
blanks for line breaks. -/
theorem Readable.isWritten {v : Json} (h : Readable v) (hgap : IsGap newLine) :
    IsWritten newLine v := by
  -- the depth is part of what is shown, since what is inside is written deeper
  induction h with
  | null => exact isWritten_leaf (fun _ => rfl) (.literal (by simp [Token.literals, leafText])) (.scalar _)
  | bool b =>
    cases b
    · exact isWritten_leaf (fun _ => rfl) (.literal (by simp [Token.literals, leafText])) (.scalar _)
    · exact isWritten_leaf (fun _ => rfl) (.literal (by simp [Token.literals, leafText])) (.scalar _)
  | @int n hlength =>
    have hphrase := Phrase.integer (decide (n < 0)) hlength
    rw [integerOf_decimalDigits] at hphrase
    exact isWritten_leaf (fun _ => rfl) (spells_intText n) hphrase
  | real hdouble => exact isWritten_leaf (fun _ => rfl) (spells_text hdouble) (.scalar _)
  | str s => exact isWritten_leaf (fun _ => rfl) (spells_stringText s) (.str s)
  | arr _ ih => exact isWritten_arr hgap ih
  | obj hkeys _ ih => exact isWritten_obj hgap hkeys ih

end Written

/-- **A value is read from the text that is written for it.** -/
theorem parse_pretty {v : Json} (h : Readable v) : parse (pretty v) = .ok v := by
  rw [parse_eq_ok_iff, pretty, String.toList_ofList]
  exact h.isWritten isGap_newLine 0

end Bibliography.Json
