import Mathlib.Data.List.Chain
import Bibliography.Proofs.Json.Grammar
/-!
# Cutting JSON text into tokens

The reader of tokens and the grammar agree: what is cut off a text is spelled
there (`spells_of_read?`), and the tokens that a text writes are those it is
cut into (`ofText_of_writes`), if a value can be read from them. A number
is cut off as far as it goes, so the second needs that nothing goes on with
it: a value that is complete is followed by a comma or an end.
-/

namespace Bibliography.Json

theorem IsDigits.isEmpty_eq_false {ds : List Char} (h : IsDigits ds) : ds.isEmpty = false := by
  simpa using h.ne_nil

/-- Digits are no sign. -/
theorem IsDigits.head_ne {d : Char} {tail : List Char} (h : IsDigits (d :: tail)) :
    d ≠ '-' ∧ d ≠ '+' := by
  have hd : d.isDigit = true := h.isDigit d List.mem_cons_self
  constructor <;> (rintro rfl; exact absurd hd (by decide))

namespace Token

/-! ## Digits, fractions and exponents -/

section Parts

variable {ds fs text rest : List Char} {power : Option Int}

/-- What cannot go on with the digits of a number. -/
def EndsDigits (rest : List Char) : Prop :=
  ∀ c, rest.head? = some c → c.isDigit = false

/-- What cannot go on with a number. -/
def EndsNumber (rest : List Char) : Prop :=
  ∀ c, rest.head? = some c → c.isDigit = false ∧ c ≠ '.' ∧ c ≠ 'e' ∧ c ≠ 'E'

theorem EndsNumber.endsDigits (h : EndsNumber rest) : EndsDigits rest :=
  fun c hc => (h c hc).1

theorem digits_append (hds : ∀ c ∈ ds, c.isDigit) (hrest : EndsDigits rest) :
    digits (ds ++ rest) = (ds, rest) := by
  unfold digits
  rw [List.takeWhile_append_of_pos hds, List.dropWhile_append_of_pos hds]
  cases rest with
  | nil => simp
  | cons c rest =>
    have hc : c.isDigit = false := hrest c rfl
    simp [hc]

theorem digits_spec (cs : List Char) :
    (∀ c ∈ (digits cs).1, c.isDigit) ∧ cs = (digits cs).1 ++ (digits cs).2 := by
  constructor
  · intro c hc
    exact List.all_eq_true.1 List.all_takeWhile c hc
  · exact List.takeWhile_append_dropWhile.symm

/-- Digits that are cut off. -/
theorem isDigits_of_digits {cs : List Char} (h : (digits cs).1.isEmpty = false) :
    IsDigits (digits cs).1 :=
  ⟨by simpa using h, (digits_spec cs).1⟩

theorem fraction_append (h : SpellsFraction fs text) (hdigits : EndsDigits rest)
    (hpoint : rest.head? ≠ some '.') : fraction (text ++ rest) = (fs, rest) := by
  cases h with
  | absent =>
    unfold fraction
    split
    · next tail htext =>
      rw [List.nil_append] at htext
      exact absurd (by rw [htext]; rfl) hpoint
    · rfl
  | digits h =>
    have hcut := digits_append h.isDigit hdigits
    simp [fraction, hcut, h.isEmpty_eq_false]

theorem fraction_spec (cs : List Char) :
    ∃ text, SpellsFraction (fraction cs).1 text ∧ cs = text ++ (fraction cs).2 := by
  unfold fraction
  split
  · next rest =>
    split
    · exact ⟨[], .absent, rfl⟩
    · next hsome =>
      exact ⟨_, .digits (isDigits_of_digits (by simpa using hsome)),
        by rw [List.cons_append, ← (digits_spec rest).2]⟩
  · exact ⟨[], .absent, rfl⟩

theorem exponent?_append (h : SpellsPower power text) (hrest : EndsNumber rest) :
    exponent? (text ++ rest) = (power, rest) := by
  cases h with
  | absent =>
    cases rest with
    | nil => rfl
    | cons c rest =>
      obtain ⟨-, -, he, hE⟩ := hrest c rfl
      simp [exponent?, he, hE]
  | @positive e sign ds he hsign h =>
    have hcut := digits_append h.isDigit hrest.endsDigits
    rcases hsign with rfl | rfl
    · obtain ⟨d, tail, rfl⟩ := List.exists_cons_of_ne_nil h.ne_nil
      obtain ⟨hminus, hplus⟩ := IsDigits.head_ne h
      rw [List.cons_append] at hcut
      simp [exponent?, he, hminus, hplus, hcut]
    · simp [exponent?, he, hcut, h.isEmpty_eq_false]
  | negative he h =>
    have hcut := digits_append h.isDigit hrest.endsDigits
    simp [exponent?, he, hcut, h.isEmpty_eq_false]

theorem exponent?_spec (cs : List Char) :
    ∃ text, SpellsPower (exponent? cs).1 text ∧ cs = text ++ (exponent? cs).2 := by
  unfold exponent?
  split
  · next e rest =>
    split
    · next he =>
      split
      next negative rest' hsign =>
        split
        next ds rest'' hcut =>
          have hds : ds = (digits rest').1 := by rw [hcut]
          have hrest : rest' = ds ++ rest'' := by
            rw [(digits_spec rest').2, hcut]
          split
          · exact ⟨[], .absent, rfl⟩
          · next hsome =>
            have hdigits : IsDigits ds := by
              rw [hds] at hsome ⊢
              exact isDigits_of_digits (by simpa using hsome)
            simp only [Bool.or_eq_true, decide_eq_true_eq] at he
            -- a minus, a plus, no sign
            split at hsign
            · obtain ⟨rfl, rfl⟩ := Prod.mk.inj hsign
              exact ⟨_, .negative he hdigits, by simp [hrest]⟩
            · obtain ⟨rfl, rfl⟩ := Prod.mk.inj hsign
              exact ⟨_, .positive he (.inr rfl) hdigits, by simp [hrest]⟩
            · obtain ⟨rfl, rfl⟩ := Prod.mk.inj hsign
              exact ⟨_, .positive he (.inl rfl) hdigits, by simp [hrest]⟩
    · exact ⟨[], .absent, rfl⟩
  · exact ⟨[], .absent, rfl⟩

/-! ## Numbers -/

/-- Neither a fraction nor an exponent goes on with digits. -/
theorem endsDigits_power (h : SpellsPower power text) (hrest : EndsNumber rest) :
    EndsDigits (text ++ rest) ∧ (text ++ rest).head? ≠ some '.' := by
  have hletter : ∀ e tail, e = 'e' ∨ e = 'E' →
      EndsDigits (e :: tail) ∧ (e :: tail).head? ≠ some '.' := by
    rintro e tail (rfl | rfl)
    · exact ⟨by rintro c ⟨rfl⟩; rfl, by simp⟩
    · exact ⟨by rintro c ⟨rfl⟩; rfl, by simp⟩
  cases h with
  | absent => exact ⟨hrest.endsDigits, fun hpoint => (hrest _ hpoint).2.1 rfl⟩
  | positive he => exact hletter _ _ he
  | negative he => exact hletter _ _ he

theorem endsDigits_fraction (h : SpellsFraction fs text) (hrest : EndsDigits rest) :
    EndsDigits (text ++ rest) := by
  cases h with
  | absent => exact hrest
  | digits => rintro c ⟨rfl⟩; rfl

/-- The digits at the front of a number, as they are cut off. -/
def whole (cs : List Char) : List Char × List Char :=
  match cs with
  | '0' :: rest => (['0'], rest)
  | _ => digits cs

theorem whole_append (hds : IsWhole ds) (hrest : EndsDigits rest) :
    whole (ds ++ rest) = (ds, rest) := by
  unfold whole
  split
  · next tail hzero =>
    obtain ⟨d, tail', rfl⟩ := List.exists_cons_of_ne_nil hds.ne_nil
    obtain ⟨rfl, -⟩ := List.cons.inj hzero
    have halone := hds.zero_alone rfl
    rw [halone] at hzero ⊢
    obtain ⟨-, rfl⟩ := List.cons.inj hzero
    rfl
  · exact digits_append hds.isDigit hrest

theorem whole_spec (cs : List Char) (h : (whole cs).1.isEmpty = false) :
    IsWhole (whole cs).1 ∧ cs = (whole cs).1 ++ (whole cs).2 := by
  unfold whole at h ⊢
  split at h
  · exact ⟨⟨⟨by simp, by simp⟩, fun _ => rfl⟩, rfl⟩
  · next hzero =>
    refine ⟨⟨isDigits_of_digits h, fun hhead => ?_⟩, (digits_spec cs).2⟩
    have hcut := (digits_spec cs).2
    obtain ⟨tail, htail⟩ := List.head?_eq_some_iff.1 hhead
    rw [htail] at hcut
    exact absurd hcut (hzero _)

theorem readNumber_eq (negative : Bool) (cs : List Char) :
    readNumber negative cs =
      if (whole cs).1.isEmpty then none
      else some (number negative (whole cs).1 (fraction (whole cs).2).1
        (exponent? (fraction (whole cs).2).2).1, (exponent? (fraction (whole cs).2).2).2) := by
  -- the reader itself, with what `whole` cuts off in place of its first match
  show (if (whole cs).1.isEmpty then none
    else if (fraction (whole cs).2).1.isEmpty && (exponent? (fraction (whole cs).2).2).1.isNone then
      some (Token.integer negative (whole cs).1, (exponent? (fraction (whole cs).2).2).2)
    else some (.scalar (.real (Binary64.ofDecimal negative
      (Number.ofDigits 10 ((whole cs).1 ++ (fraction (whole cs).2).1))
      ((exponent? (fraction (whole cs).2).2).1.getD 0 - (fraction (whole cs).2).1.length))),
      (exponent? (fraction (whole cs).2).2).2)) = _
  unfold number
  split
  · rfl
  · split <;> rfl

theorem readNumber_append {negative : Bool} {ftext ptext : List Char} (hds : IsWhole ds)
    (hfs : SpellsFraction fs ftext) (hpower : SpellsPower power ptext) (hrest : EndsNumber rest) :
    readNumber negative (ds ++ (ftext ++ (ptext ++ rest))) =
      some (number negative ds fs power, rest) := by
  obtain ⟨hdigits, hpoint⟩ := endsDigits_power hpower hrest
  have hwhole := whole_append hds (endsDigits_fraction hfs hdigits)
  have hfraction := fraction_append hfs hdigits hpoint
  have hexponent := exponent?_append hpower hrest
  rw [readNumber_eq]
  simp [hwhole, hfraction, hexponent, hds.ne_nil]

theorem spells_of_readNumber {negative : Bool} {cs : List Char} {t : Token}
    (h : readNumber negative cs = some (t, rest)) :
    ∃ text, t.Spells (signText negative ++ text) ∧ cs = text ++ rest := by
  rw [readNumber_eq] at h
  split at h
  · cases h
  · next hsome =>
    obtain ⟨hds, hwhole⟩ := whole_spec cs (by simpa using hsome)
    obtain ⟨ftext, hfs, hfraction⟩ := fraction_spec (whole cs).2
    obtain ⟨ptext, hpower, hexponent⟩ := exponent?_spec (fraction (whole cs).2).2
    obtain ⟨rfl, rfl⟩ := Prod.mk.inj (Option.some.inj h)
    refine ⟨_, .number hds hfs hpower, ?_⟩
    rw [List.append_assoc, List.append_assoc, ← hexponent, ← hfraction, ← hwhole]

end Parts

/-! ## Strings and literals -/

theorem readUnits_append {units : List Nat} {cs : List Char} (h : SpellsUnits units cs)
    (rest : List Char) : readUnits (cs ++ '"' :: rest) = some (units, rest) := by
  induction h with
  | nil => simp [readUnits]
  | @plain c units cs hcontrol hquote hbackslash h ih =>
    have hnot : ¬ c.toNat < 0x20 := Nat.not_lt.2 hcontrol
    rw [List.cons_append, readUnits]
    · simp [ih, hnot, hbackslash]
    · exact hquote
    · exact fun a b c d tail hc => absurd hc hbackslash
    · exact fun e tail hc => absurd hc hbackslash
  | @escape e c units cs he h ih =>
    have hne : e ≠ 'u' := by
      rintro rfl
      cases he
    rw [List.cons_append, List.cons_append, readUnits]
    · simp [ih, he]
    · exact fun a b c d tail hu => absurd hu hne
  | @unicode a b c d units cs hex h ih =>
    simp only [List.cons_append]
    rw [readUnits, if_pos hex, ih]
    rfl

/-- One more code point is read. -/
theorem exists_of_map_units {found : Option (List Nat × List Char)} {n : Nat} {units : List Nat}
    {rest : List Char}
    (h : (found.map fun (units, rest) => (n :: units, rest)) = some (units, rest)) :
    ∃ units', found = some (units', rest) ∧ units = n :: units' := by
  obtain ⟨⟨units', rest'⟩, hfound, heq⟩ := Option.map_eq_some_iff.1 h
  obtain ⟨rfl, rfl⟩ := Prod.mk.inj heq
  exact ⟨units', hfound, rfl⟩

theorem spellsUnits_of_readUnits {cs rest : List Char} {units : List Nat}
    (h : readUnits cs = some (units, rest)) :
    ∃ body, SpellsUnits units body ∧ cs = body ++ '"' :: rest := by
  fun_induction readUnits cs generalizing units rest with
  | case1 => cases h
  | case2 tail =>
    obtain ⟨rfl, rfl⟩ := Prod.mk.inj (Option.some.inj h)
    exact ⟨[], .nil, rfl⟩
  | case3 a b c d tail hex ih =>
    obtain ⟨units, hread, rfl⟩ := exists_of_map_units h
    obtain ⟨body, hbody, rfl⟩ := ih hread
    exact ⟨_, .unicode hex hbody, rfl⟩
  | case4 => cases h
  | case5 e tail _ c he ih =>
    obtain ⟨units, hread, rfl⟩ := exists_of_map_units h
    obtain ⟨body, hbody, rfl⟩ := ih hread
    exact ⟨_, .escape he hbody, rfl⟩
  | case6 => cases h
  | case7 => cases h
  | case8 c tail hquote _ _ hplain ih =>
    obtain ⟨units, hread, rfl⟩ := exists_of_map_units h
    obtain ⟨body, hbody, rfl⟩ := ih hread
    simp only [Bool.or_eq_true, decide_eq_true_eq, not_or] at hplain
    obtain ⟨hcontrol, hbackslash⟩ := hplain
    exact ⟨_, .plain (Nat.not_lt.1 hcontrol) hquote hbackslash hbody, rfl⟩

theorem literal?_append {name : List Char} {value : Json} (h : (name, value) ∈ literals)
    (rest : List Char) : literal? (name ++ rest) = some (.scalar value, rest) := by
  simp only [literals, List.mem_cons, Prod.mk.injEq, List.not_mem_nil, or_false] at h
  rcases h with ⟨rfl, rfl⟩ | ⟨rfl, rfl⟩ | ⟨rfl, rfl⟩ | ⟨rfl, rfl⟩ | ⟨rfl, rfl⟩ | ⟨rfl, rfl⟩ <;> rfl

theorem spells_of_literal? {cs rest : List Char} {t : Token} (h : literal? cs = some (t, rest)) :
    ∃ text, t.Spells text ∧ cs = text ++ rest := by
  obtain ⟨⟨name, value⟩, hmem, hfound⟩ := List.exists_of_findSome?_eq_some h
  dsimp only at hfound
  split at hfound
  · next hstart =>
    obtain ⟨tail, rfl⟩ := List.isPrefixOf_iff_prefix.1 hstart
    obtain ⟨rfl, rfl⟩ := Prod.mk.inj (Option.some.inj hfound)
    exact ⟨name, .literal hmem, by rw [List.drop_left]⟩
  · cases hfound

/-! ## Tokens -/

/-- Whether the token is a number or a literal. -/
def isAtom : Token → Bool
  | .scalar _ | .integer _ _ => true
  | _ => false

theorem isAtom_number {negative : Bool} {ds fs : List Char} {power : Option Int} :
    (number negative ds fs power).isAtom = true := by
  unfold number
  split <;> rfl

theorem literal?_eq_none {cs : List Char}
    (h : ∀ name value, (name, value) ∈ literals → ¬ name <+: cs) : literal? cs = none := by
  refine List.findSome?_eq_none_iff.2 fun entry hentry => ?_
  obtain ⟨name, value⟩ := entry
  have hstart : name.isPrefixOf cs = false :=
    Bool.eq_false_iff.2 fun hp => h name value hentry (List.isPrefixOf_iff_prefix.1 hp)
  simp [hstart]

/-- No literal starts like a number. -/
theorem literal?_number {ds : List Char} (negative : Bool) (rest : List Char) (h : IsDigits ds) :
    literal? (signText negative ++ (ds ++ rest)) = none := by
  obtain ⟨d, tail, rfl⟩ := List.exists_cons_of_ne_nil h.ne_nil
  have hd : d.isDigit = true := h.isDigit d List.mem_cons_self
  refine literal?_eq_none fun name value hmem hstart => ?_
  -- each of the names differs from a sign or a digit by its first character
  simp only [literals, List.mem_cons, Prod.mk.injEq, List.not_mem_nil, or_false] at hmem
  rcases hmem with ⟨rfl, rfl⟩ | ⟨rfl, rfl⟩ | ⟨rfl, rfl⟩ | ⟨rfl, rfl⟩ | ⟨rfl, rfl⟩ | ⟨rfl, rfl⟩ <;>
    cases negative <;> simp [signText, List.cons_prefix_cons] at hstart <;>
    obtain ⟨rfl, -⟩ := hstart <;> revert hd <;> decide

theorem read?_mark {c : Char} {t : Token} (h : (c, t) ∈ marks) (rest : List Char) :
    isSpace c = false ∧ read? c rest = some (t, rest) := by
  simp only [marks, List.mem_cons, Prod.mk.injEq, List.not_mem_nil, or_false] at h
  rcases h with ⟨rfl, rfl⟩ | ⟨rfl, rfl⟩ | ⟨rfl, rfl⟩ | ⟨rfl, rfl⟩ | ⟨rfl, rfl⟩ | ⟨rfl, rfl⟩ <;>
    exact ⟨by decide, rfl⟩

/-- The characters that start no literal and no number. -/
def isMark (c : Char) : Bool :=
  c == '"' || marks.any (·.1 == c)

theorem read?_eq {c : Char} {rest : List Char} (hc : isMark c = false) :
    read? c rest = match literal? (c :: rest) with
      | some found => some found
      | none => if c = '-' then readNumber true rest else
        if c.isDigit then readNumber false (c :: rest) else none := by
  unfold read?
  split
  case h_8 => rfl
  all_goals exact absurd hc (by decide)

theorem isMark_digit {d : Char} (hd : d.isDigit = true) : isMark d = false ∧ isSpace d = false := by
  have hothers : (['[', ']', '\x7b', '\x7d', ',', ':', '"', ' ', '\t', '\n', '\r'].all
      (!·.isDigit)) = true := by
    decide
  have hne : ∀ c ∈ ['[', ']', '\x7b', '\x7d', ',', ':', '"', ' ', '\t', '\n', '\r'], d ≠ c := by
    intro c hc heq
    have hc' := List.all_eq_true.1 hothers c hc
    rw [← heq, hd] at hc'
    cases hc'
  simp only [List.forall_mem_cons] at hne
  simp [isMark, marks, isSpace, eq_comm (b := d), hne]

theorem read?_append {t : Token} {text rest : List Char} (h : t.Spells text)
    (hrest : t.isAtom = true → EndsNumber rest) :
    ∃ c tail, text = c :: tail ∧ isSpace c = false ∧ read? c (tail ++ rest) = some (t, rest) := by
  cases h with
  | @mark c t hmem => exact ⟨c, [], rfl, read?_mark hmem rest⟩
  | literal hmem =>
    have hread := literal?_append hmem rest
    simp only [literals, List.mem_cons, Prod.mk.injEq, List.not_mem_nil, or_false] at hmem
    rcases hmem with ⟨rfl, rfl⟩ | ⟨rfl, rfl⟩ | ⟨rfl, rfl⟩ | ⟨rfl, rfl⟩ | ⟨rfl, rfl⟩ | ⟨rfl, rfl⟩ <;>
      exact ⟨_, _, rfl, by decide, by rw [read?_eq (by decide)]; exact hread ▸ rfl⟩
  | @number negative ds fs ftext ptext power hds hfs hpower =>
    -- a sign is looked at before the digits are read, so the two cases differ
    have hend := hrest isAtom_number
    have hliteral := literal?_number negative (ftext ++ (ptext ++ rest)) hds.toIsDigits
    cases negative with
    | true =>
      refine ⟨'-', ds ++ (ftext ++ ptext), rfl, by decide, ?_⟩
      have hread : readNumber true _ = _ := readNumber_append hds hfs hpower hend
      have hnone : literal? ('-' :: (ds ++ (ftext ++ (ptext ++ rest)))) = none := hliteral
      rw [read?_eq (by decide), List.append_assoc, List.append_assoc, hnone, hread]
      rfl
    | false =>
      obtain ⟨d, tail, rfl⟩ := List.exists_cons_of_ne_nil hds.ne_nil
      have hd : d.isDigit = true := hds.isDigit d List.mem_cons_self
      obtain ⟨hmark, hspace⟩ := isMark_digit hd
      have hread : readNumber false _ = _ := readNumber_append hds hfs hpower hend
      have hnone : literal? (d :: (tail ++ (ftext ++ (ptext ++ rest)))) = none := hliteral
      have hminus : d ≠ '-' := (IsDigits.head_ne hds.toIsDigits).1
      refine ⟨d, tail ++ (ftext ++ ptext), rfl, hspace, ?_⟩
      rw [read?_eq hmark, List.append_assoc, List.append_assoc, hnone]
      dsimp only
      rw [if_neg hminus, if_pos hd, ← List.cons_append, hread]
  | @str units cs h =>
    refine ⟨'"', cs ++ ['"'], rfl, by decide, ?_⟩
    have hread := readUnits_append h rest
    show (readUnits (cs ++ ['"'] ++ rest)).map _ = _
    rw [List.append_assoc, List.singleton_append, hread]
    rfl

/-- **What is cut off a text is spelled there.** -/
theorem spells_of_read? {c : Char} {rest rest' : List Char} {t : Token}
    (h : read? c rest = some (t, rest')) : ∃ text, t.Spells text ∧ c :: rest = text ++ rest' := by
  by_cases hquote : c = '"'
  · subst hquote
    obtain ⟨⟨units, tail⟩, hread, heq⟩ := Option.map_eq_some_iff.1 h
    obtain ⟨rfl, rfl⟩ := Prod.mk.inj heq
    obtain ⟨body, hbody, rfl⟩ := spellsUnits_of_readUnits hread
    exact ⟨_, .str hbody, by simp⟩
  by_cases hmark : ∃ t', (c, t') ∈ marks
  · obtain ⟨t', hmem⟩ := hmark
    rw [(read?_mark hmem rest).2] at h
    obtain ⟨rfl, rfl⟩ := Prod.mk.inj (Option.some.inj h)
    exact ⟨[c], .mark hmem, rfl⟩
  · have hc : isMark c = false := by
      simp only [isMark, Bool.or_eq_false_iff, beq_eq_false_iff_ne, List.any_eq_false]
      refine ⟨hquote, fun m hm heq => hmark ⟨m.2, ?_⟩⟩
      rwa [← beq_iff_eq.1 heq]
    rw [read?_eq hc] at h
    split at h
    · next found hliteral =>
      obtain rfl := Option.some.inj h
      exact spells_of_literal? hliteral
    · split at h
      · next hminus =>
        obtain ⟨text, hspells, rfl⟩ := spells_of_readNumber h
        exact ⟨_, hspells, by rw [hminus]; rfl⟩
      · split at h
        · exact spells_of_readNumber h
        · cases h

/-! ## Texts -/

/-- Tokens that can stand side by side: of two numbers or literals, the second
might go on with the first. -/
def Apart (t u : Token) : Prop :=
  t.isAtom = false ∨ u.isAtom = false

theorem ofText_gap {c : Char} {cs : List Char} (hc : isSpace c = true) :
    ofText (c :: cs) = ofText cs := by
  rw [ofText, if_pos hc]

theorem ofText_token {c : Char} {cs rest : List Char} {t : Token} (hc : isSpace c = false)
    (h : read? c cs = some (t, rest)) : ofText (c :: cs) = t :: ofText rest := by
  rw [ofText, if_neg (by simp [hc])]
  split
  · next t' rest' hread =>
    obtain ⟨rfl, rfl⟩ := Prod.mk.inj (Option.some.inj (hread.symm.trans h))
    rfl
  · next hnone =>
    rw [hnone] at h
    cases h

/-- **A text writes the tokens it is cut into**, unless it holds something that
is no token. -/
theorem writes_ofText {cs : List Char} (h : junk ∉ ofText cs) : Writes (ofText cs) cs := by
  fun_induction ofText cs with
  | case1 => exact .nil
  | case2 c rest hc ih => exact .gap hc (ih h)
  | case3 c rest hc t rest' hread ih =>
    obtain ⟨text, hspells, htext⟩ := spells_of_read? hread
    rw [htext]
    exact .token hspells (ih (List.not_mem_of_not_mem_cons h))
  | case4 c rest hc hnone => exact absurd List.mem_cons_self h

/-- Nothing but a number goes on with a number. -/
theorem endsNumber_of_writes {ts : List Token} {cs : List Char} (h : Writes ts cs)
    (hhead : ∀ t, ts.head? = some t → t.isAtom = false) : EndsNumber cs := by
  cases h with
  | nil => simp [EndsNumber]
  | @gap c ts cs hc h =>
    rintro _ ⟨rfl⟩
    simp only [isSpace, Bool.or_eq_true, beq_iff_eq, or_assoc] at hc
    rcases hc with rfl | rfl | rfl | rfl <;> decide
  | @token t ts text cs ht h =>
    have hatom : t.isAtom = false := hhead t rfl
    cases ht with
    | mark hmem =>
      rintro _ ⟨rfl⟩
      simp only [marks, List.mem_cons, Prod.mk.injEq, List.not_mem_nil, or_false] at hmem
      rcases hmem with ⟨rfl, -⟩ | ⟨rfl, -⟩ | ⟨rfl, -⟩ | ⟨rfl, -⟩ | ⟨rfl, -⟩ | ⟨rfl, -⟩ <;> decide
    | literal => cases hatom
    | number => rw [isAtom_number] at hatom; cases hatom
    | str =>
      rintro _ ⟨rfl⟩
      decide

/-- **The tokens that a text writes are those it is cut into**, if they can
stand side by side. -/
theorem ofText_of_writes {ts : List Token} {cs : List Char} (h : Writes ts cs)
    (hapart : ts.IsChain Apart) : ofText cs = ts := by
  induction h with
  | nil => rw [ofText]
  | gap hc h ih => rw [ofText_gap hc, ih hapart]
  | @token t ts text cs ht h ih =>
    -- what is written next is another token, which does not go on with this one
    have hend : t.isAtom = true → EndsNumber cs := by
      intro hatom
      refine endsNumber_of_writes h fun u hu => ?_
      obtain ⟨us, rfl⟩ := List.head?_eq_some_iff.1 hu
      have hpair : Apart t u := (List.isChain_cons_cons.1 hapart).1
      exact hpair.resolve_left (by simp [hatom])
    obtain ⟨c, tail, rfl, hc, hread⟩ := read?_append ht hend
    rw [List.cons_append, ofText_token hc hread, ih hapart.of_cons]

end Token

end Bibliography.Json
