import Bibliography.Json.Printer
import Bibliography.Proofs.Json.Grammar
import Bibliography.Proofs.Number.Shortest
/-!
# What is written spells what is meant

Texts, integers and numbers of double precision are written as the grammar
spells them: a text as a string of its characters, an integer by its digits,
and any other number by a decimal that is rounded to it. How the decimal is
laid out moves its point and says so in the exponent (`positional_layOut`).
-/

namespace Bibliography.Json

/-! ## Texts -/

section Texts

variable {c : Char} {units : List Nat} {cs : List Char}

/-- The four digits of a control character. -/
theorem hexDigits_control {n : Nat} (h : n < 0x20) :
    ['0', '0', hexDigit (n / 16), hexDigit n].all Number.isHexDigit = true ∧
      Number.ofDigits 16 ['0', '0', hexDigit (n / 16), hexDigit n] = n := by
  revert n
  decide

theorem spellsUnits_escapedChar (c : Char) (h : SpellsUnits units cs) :
    SpellsUnits (c.toNat :: units) (escapedChar c ++ cs) := by
  by_cases hescape : c ∈ ['"', '\\', '\n', '\r', '\t', '\x0c', '\x08']
  · simp only [List.mem_cons, List.not_mem_nil, or_false] at hescape
    rcases hescape with rfl | rfl | rfl | rfl | rfl | rfl | rfl <;> exact .escape rfl h
  · simp only [List.mem_cons, List.not_mem_nil, or_false, not_or] at hescape
    by_cases hcontrol : c.toNat < 0x20
    · obtain ⟨hhex, hvalue⟩ := hexDigits_control hcontrol
      have hspells := SpellsUnits.unicode hhex h
      rw [hvalue] at hspells
      simpa [escapedChar, hescape, hcontrol] using hspells
    · have hspells := SpellsUnits.plain (Nat.not_lt.1 hcontrol) hescape.1 hescape.2.1 h
      simpa [escapedChar, hescape, hcontrol] using hspells

theorem spellsUnits_flatMap (cs : List Char) :
    SpellsUnits (cs.map Char.toNat) (cs.flatMap escapedChar) := by
  induction cs with
  | nil => exact .nil
  | cons c cs ih =>
    rw [List.map_cons, List.flatMap_cons]
    exact spellsUnits_escapedChar c ih

/-- No character is one half of a pair. -/
theorem not_surrogate (c : Char) :
    Token.isHighSurrogate c.toNat = false ∧ Token.isLowSurrogate c.toNat = false := by
  have hvalid : c.toNat < 0xD800 ∨ 0xDFFF < c.toNat ∧ c.toNat < 0x110000 := c.valid
  simp only [Token.isHighSurrogate, Token.isLowSurrogate, Bool.and_eq_false_iff,
    decide_eq_false_iff_not]
  omega

/-- Characters stand for themselves. -/
theorem joinSurrogates_map (cs : List Char) : Token.joinSurrogates (cs.map Char.toNat) = cs := by
  induction cs with
  | nil => rfl
  | cons c cs ih =>
    obtain ⟨hhigh, hlow⟩ := not_surrogate c
    cases cs with
    | nil => simp [Token.joinSurrogates, hhigh, hlow, Char.ofNat_toNat]
    | cons c' cs =>
      rw [List.map_cons, List.map_cons, Token.joinSurrogates, ← List.map_cons, ih]
      simp [hhigh, hlow, Char.ofNat_toNat]

/-- **A text is written as a string of its characters.** -/
theorem spells_stringText (s : String) : Token.Spells (.str s) (stringText s) := by
  have hspells := Token.Spells.str (spellsUnits_flatMap s.toList)
  rwa [joinSurrogates_map, String.ofList_toList] at hspells

end Texts

/-! ## Integers -/

section Integers

variable {ds : List Char}

/-- Digits that do not start with a zero. -/
structure IsSignificant (ds : List Char) : Prop extends IsDigits ds where
  head_ne : ds.head? ≠ some '0'

theorem IsSignificant.isWhole (h : IsSignificant ds) : IsWhole ds :=
  ⟨h.toIsDigits, fun hzero => absurd hzero h.head_ne⟩

theorem IsSignificant.append {ds' : List Char} (h : IsSignificant ds)
    (h' : ∀ c ∈ ds', c.isDigit = true) : IsSignificant (ds ++ ds') := by
  obtain ⟨d, rest, rfl⟩ := List.exists_cons_of_ne_nil h.ne_nil
  exact ⟨⟨List.cons_ne_nil d _, List.forall_mem_append.2 ⟨h.isDigit, h'⟩⟩, h.head_ne⟩

theorem IsSignificant.take (h : IsSignificant ds) {k : Nat} (hk : 0 < k) :
    IsSignificant (ds.take k) := by
  obtain ⟨d, rest, rfl⟩ := List.exists_cons_of_ne_nil h.ne_nil
  obtain ⟨k, rfl⟩ := Nat.exists_eq_add_one.2 hk
  exact ⟨⟨List.cons_ne_nil d _, fun c hc => h.isDigit c (List.mem_of_mem_take hc)⟩, h.head_ne⟩

theorem isSignificant_decimalDigits {n : Nat} (hn : 0 < n) :
    IsSignificant (Number.decimalDigits n) := by
  obtain ⟨d, rest, hcons, hd⟩ := Number.exists_decimalDigits_eq_cons hn
  refine ⟨⟨by simp [hcons], fun c hc => Number.isDigit_of_mem_decimalDigits hc⟩, ?_⟩
  simpa [hcons] using hd

theorem isWhole_zero : IsWhole ['0'] :=
  ⟨⟨List.cons_ne_nil _ _, List.forall_mem_singleton.2 rfl⟩, fun _ => rfl⟩

theorem isWhole_decimalDigits (n : Nat) : IsWhole (Number.decimalDigits n) := by
  rcases Nat.eq_zero_or_pos n with rfl | hn
  · exact isWhole_zero
  · exact (isSignificant_decimalDigits hn).isWhole

theorem spells_intText (n : Int) :
    Token.Spells (.integer (decide (n < 0)) (Number.decimalDigits n.natAbs))
      (Number.intText n).toList := by
  have hspells : Token.Spells (.integer (decide (n < 0)) (Number.decimalDigits n.natAbs)) _ :=
    .number (isWhole_decimalDigits n.natAbs) .absent .absent
  rw [Number.intText, String.toList_ofList]
  by_cases hn : n < 0
  · simpa [signText, hn] using hspells
  · simpa [signText, hn] using hspells

theorem integerOf_decimalDigits (n : Int) :
    integerOf (decide (n < 0)) (Number.decimalDigits n.natAbs) = n := by
  rw [integerOf, Number.ofDigits_decimalDigits]
  by_cases hn : n < 0
  · rw [if_pos (decide_eq_true hn)]
    omega
  · rw [if_neg (by simpa using hn)]
    omega

end Integers

/-! ## Numbers of double precision -/

section Reals

open Binary64

variable {ds : List Char} {m : Nat} {e point : Int} {negative : Bool}

/-- **The spelling of a decimal with a point or an exponent in it**, of the
value of some digits with the point before the first of them moved right by
`point` places. -/
structure Positional (ds : List Char) (point : Int) (text : List Char) : Prop where
  spelled : ∃ whole fs ftext power ptext, IsWhole whole ∧ SpellsFraction fs ftext ∧
    SpellsPower power ptext ∧ text = whole ++ (ftext ++ ptext) ∧ ¬ (fs = [] ∧ power = none) ∧
    (Number.ofDigits 10 (whole ++ fs) : ℚ) * 10 ^ (power.getD 0 - fs.length) =
      Number.ofDigits 10 ds * 10 ^ (point - ds.length)

/-- All places of the digits behind the point. -/
theorem positional_small (hds : IsDigits ds) (hpoint : point ≤ 0) :
    Positional ds point ('0' :: '.' :: (List.replicate (-point).toNat '0' ++ ds)) := by
  have hfs : IsDigits (List.replicate (-point).toNat '0' ++ ds) := by
    refine ⟨by simp [hds.ne_nil], fun c hc => ?_⟩
    rcases List.mem_append.1 hc with hc | hc
    · rw [List.eq_of_mem_replicate hc]
      rfl
    · exact hds.isDigit c hc
  refine ⟨_, _, _, _, _, isWhole_zero, .digits hfs, .absent, by simp, by simp [hds.ne_nil], ?_⟩
  have hvalue : Number.ofDigits 10 (['0'] ++ (List.replicate (-point).toNat '0' ++ ds)) =
      Number.ofDigits 10 ds := by
    rw [← List.append_assoc, ← List.replicate_one, ← List.replicate_add,
      Number.ofDigits_zeros_append]
  have hexponent : (none : Option Int).getD 0 -
      ((List.replicate (-point).toNat '0' ++ ds).length : Int) = point - ds.length := by
    simp only [Option.getD_none, List.length_append, List.length_replicate]
    omega
  rw [hvalue, hexponent]

/-- The point behind the last digit, or behind zeros that follow it. -/
theorem positional_large (hds : IsSignificant ds) (k : Nat) :
    Positional ds (ds.length + k) (ds ++ List.replicate k '0' ++ ['.', '0']) := by
  have hwhole : IsWhole (ds ++ List.replicate k '0') :=
    (hds.append fun c hc => by rw [List.eq_of_mem_replicate hc]; rfl).isWhole
  refine ⟨_, _, _, _, _, hwhole, .digits isWhole_zero.toIsDigits, .absent, by simp, by simp, ?_⟩
  have hvalue : Number.ofDigits 10 (ds ++ List.replicate k '0' ++ ['0']) =
      Number.ofDigits 10 ds * 10 ^ (k + 1) := by
    rw [List.append_assoc, ← List.replicate_one, ← List.replicate_add,
      Number.ofDigits_append_zeros]
  have hpow : (10 : ℚ) ^ (k + 1) * 10 ^ (-1 : Int) = 10 ^ k := by
    rw [zpow_neg_one, pow_succ, mul_assoc, mul_inv_cancel₀ (by norm_num), mul_one]
  rw [hvalue]
  simp only [Option.getD_none, List.length_singleton, zero_sub, Nat.cast_one]
  push_cast
  rw [mul_assoc, hpow, add_sub_cancel_left, zpow_natCast]

/-- The point among the digits. -/
theorem positional_between (hds : IsSignificant ds) {k : Nat} (hk : 0 < k) (hlt : k < ds.length) :
    Positional ds k (ds.take k ++ '.' :: ds.drop k) := by
  have hfs : IsDigits (ds.drop k) :=
    ⟨by simpa using hlt, fun c hc => hds.isDigit c (List.mem_of_mem_drop hc)⟩
  refine ⟨_, _, _, _, _, (hds.take hk).isWhole, .digits hfs, .absent, by simp,
    by simp [hfs.ne_nil], ?_⟩
  have hexponent : (none : Option Int).getD 0 - ((ds.drop k).length : Int) = k - ds.length := by
    rw [Option.getD_none, List.length_drop]
    omega
  rw [List.take_append_drop, hexponent]

/-- An exponent behind the first digit, or behind a point and all others. -/
theorem positional_power {d : Char} {rest ftext ptext : List Char} {power : Int}
    (hds : IsSignificant (d :: rest)) (hfs : SpellsFraction rest ftext)
    (hpower : SpellsPower (some power) ptext) :
    Positional (d :: rest) (power + 1) (d :: (ftext ++ ptext)) := by
  refine ⟨[d], _, _, _, _, (hds.take Nat.one_pos).isWhole, hfs, hpower, rfl, by simp, ?_⟩
  have hexponent : (some power).getD 0 - (rest.length : Int) = power + 1 - (d :: rest).length := by
    rw [Option.getD_some, List.length_cons]
    omega
  rw [hexponent]
  rfl

/-- The exponent as it is laid out: at least two digits behind a sign. -/
theorem spellsPower_padded (power : Int) (k : Nat) :
    SpellsPower (some power) ('e' :: (if power < 0 then '-' else '+') ::
      (List.replicate k '0' ++ Number.decimalDigits power.natAbs)) := by
  have hdigits : IsDigits (List.replicate k '0' ++ Number.decimalDigits power.natAbs) := by
    refine ⟨by simp [(isWhole_decimalDigits power.natAbs).ne_nil], fun c hc => ?_⟩
    rcases List.mem_append.1 hc with hc | hc
    · rw [List.eq_of_mem_replicate hc]
      rfl
    · exact Number.isDigit_of_mem_decimalDigits hc
  have hvalue : Number.ofDigits 10 (List.replicate k '0' ++ Number.decimalDigits power.natAbs) =
      power.natAbs := by
    rw [Number.ofDigits_zeros_append, Number.ofDigits_decimalDigits]
  by_cases hnegative : power < 0
  · have hspells := SpellsPower.negative (.inl rfl) hdigits
    have hpower : -(power.natAbs : Int) = power := by omega
    rw [hvalue, hpower] at hspells
    rwa [if_pos hnegative]
  · have hspells := SpellsPower.positive (.inl rfl) (.inr rfl) hdigits
    have hpower : (power.natAbs : Int) = power := by omega
    rw [hvalue, hpower] at hspells
    rwa [if_neg hnegative]

/-- **However digits are laid out, it is their decimal that is spelled.** -/
theorem positional_layOut (hds : IsSignificant ds) (point : Int) :
    Positional ds point (layOut ds point) := by
  unfold layOut
  split
  · split
    · next hsmall => exact positional_small hds.toIsDigits hsmall
    · next hpositive =>
      obtain ⟨k, rfl⟩ := Int.eq_ofNat_of_zero_le (by omega : 0 ≤ point)
      dsimp only
      rw [Int.toNat_natCast, List.append_assoc]
      by_cases hlt : k < ds.length
      · have hzeros : k - (ds.take k).length = 0 := by
          rw [List.length_take]
          omega
        have hrest : (ds.drop k).isEmpty = false := by simpa using hlt
        rw [hzeros, hrest]
        exact positional_between hds (by omega) hlt
      · have hall : ds.take k = ds := List.take_of_length_le (Nat.le_of_not_lt hlt)
        have hrest : ds.drop k = [] := List.drop_of_length_le (Nat.le_of_not_lt hlt)
        have hpoint : (k : Int) = ds.length + ((k - ds.length : Nat) : Int) := by omega
        rw [hall, hrest, ← List.append_assoc]
        have hlarge := positional_large hds (k - ds.length)
        rwa [← hpoint] at hlarge
  · obtain ⟨d, rest, rfl⟩ := List.exists_cons_of_ne_nil hds.ne_nil
    have hpower := spellsPower_padded (point - 1) (2 - (Number.decimalDigits (point - 1).natAbs).length)
    have hpoint : point - 1 + 1 = point := by omega
    cases rest with
    | nil =>
      have hone := positional_power hds .absent hpower
      rwa [hpoint] at hone
    | cons d' rest =>
      have hrest : IsDigits (d' :: rest) :=
        ⟨List.cons_ne_nil d' rest, fun c hc => hds.isDigit c (List.mem_cons_of_mem d hc)⟩
      have hmore := positional_power hds (.digits hrest) hpower
      rwa [hpoint] at hmore

/-- **A positional text spells the number that its decimal is rounded to.** -/
theorem Positional.spells {text : List Char} (h : Positional ds point text) (negative : Bool) :
    Token.Spells (.scalar (.real (ofDecimal negative (Number.ofDigits 10 ds) (point - ds.length))))
      (signText negative ++ text) := by
  obtain ⟨whole, fs, ftext, power, ptext, hwhole, hfs, hpower, rfl, hreal, hvalue⟩ := h.spelled
  have htoken : Token.number negative whole fs power =
      .scalar (.real (ofDecimal negative (Number.ofDigits 10 ds) (point - ds.length))) := by
    rw [Token.number, if_neg (by simpa using hreal), ofDecimal_congr hvalue]
  rw [← htoken]
  exact .number hwhole hfs hpower

theorem isSignificant_trimZeros (h : IsSignificant ds) : IsSignificant (trimZeros ds) := by
  obtain ⟨d, rest, rfl⟩ := List.exists_cons_of_ne_nil h.ne_nil
  have hd : d ≠ '0' := by simpa using h.head_ne
  obtain ⟨tail, htail⟩ : ∃ tail, trimZeros (d :: rest) = d :: tail := exists_trimZeros_eq_cons hd
  refine ⟨⟨by simp [htail], fun c hc => h.isDigit c (mem_of_mem_trimZeros hc)⟩, ?_⟩
  simpa [htail] using h.head_ne

theorem text_finite :
    ((finite negative m e).text specialTexts).toList = signText negative ++
      if m = 0 then ['0', '.', '0']
      else layOut (trimZeros (Number.decimalDigits (shortest m e).1))
        ((Number.decimalDigits (shortest m e).1).length + (shortest m e).2) := by
  rw [text, String.toList_ofList]
  generalize shortest m e = found
  obtain ⟨digits, x⟩ := found
  cases negative <;> rfl

/-- **A number of double precision is written as it is read.** -/
theorem spells_text {x : Binary64} (h : IsDouble x) :
    Token.Spells (.scalar (.real x)) (x.text specialTexts).toList := by
  cases x with
  | nan =>
    rw [show (text specialTexts nan).toList = ['N', 'a', 'N'] by rfl]
    exact .literal (by simp [Token.literals])
  | infinity negative =>
    cases negative with
    | false =>
      rw [show (text specialTexts (infinity false)).toList =
        ['I', 'n', 'f', 'i', 'n', 'i', 't', 'y'] by rfl]
      exact .literal (by simp [Token.literals])
    | true =>
      rw [show (text specialTexts (infinity true)).toList =
        ['-', 'I', 'n', 'f', 'i', 'n', 'i', 't', 'y'] by rfl]
      exact .literal (by simp [Token.literals])
  | finite negative m e =>
    rcases Nat.eq_zero_or_pos m with rfl | hm
    · have he : e = -1074 := h.full.resolve_left (by decide)
      subst he
      have hzero : Positional ['0'] 1 ['0', '.', '0'] :=
        ⟨_, _, _, _, _, isWhole_zero, .digits isWhole_zero.toIsDigits, .absent, rfl, by simp, by
          simp [Number.ofDigits, Number.digitValue]⟩
      rw [text_finite, if_pos rfl]
      exact hzero.spells negative
    · rw [text_finite, if_neg hm.ne']
      have hpositive := shortest_fst_pos hm h
      have hds := isSignificant_decimalDigits hpositive
      have hspells := (positional_layOut (isSignificant_trimZeros hds)
        ((Number.decimalDigits (shortest m e).1).length + (shortest m e).2)).spells negative
      have hexponent : ((Number.decimalDigits (shortest m e).1).length : Int) + (shortest m e).2 -
            (trimZeros (Number.decimalDigits (shortest m e).1)).length =
          (shortest m e).2 + ((Number.decimalDigits (shortest m e).1).length -
            (trimZeros (Number.decimalDigits (shortest m e).1)).length) := by
        omega
      rw [hexponent, ofDecimal_congr (ofDigits_trimZeros (shortest m e).2),
        Number.ofDigits_decimalDigits, ofDecimal_shortest hm h] at hspells
      exact hspells

end Reals

end Bibliography.Json
