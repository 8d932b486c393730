import Mathlib.Algebra.Group.Nat.Defs
import Bibliography.Text.Numeral
/-!
# Written integers are read back

An integer that can be written is what its numeral reads as
(`readIntIn_writeInt`). A text of digits is a number unless one of its digits
is a typographic one or there are too many of them (`readDigitText_eq_ok_iff`).
-/

namespace Bibliography

namespace Number

variable {n : Nat} {c : Char}

theorem isDigit_of_mem_decimalDigits (h : c ∈ decimalDigits n) : c.isDigit = true :=
  Nat.isDigit_of_mem_toDigits (by decide) (by decide) h

/-- The digits that write a number have its value. -/
theorem ofDigits_decimalDigits : ofDigits 10 (decimalDigits n) = n := by
  have hvalue : ∀ ds : List Char, (∀ c ∈ ds, c.isDigit = true) → ∀ start,
      ds.foldl (fun m c => 10 * m + digitValue c) start = Nat.ofDigitChars 10 ds start := by
    intro ds
    induction ds with
    | nil => exact fun _ _ => rfl
    | cons c ds ih =>
      intro hds start
      have hc : digitValue c = c.toNat - '0'.toNat := by
        rw [digitValue, if_pos (hds c List.mem_cons_self)]
        rfl
      rw [List.foldl_cons, Nat.ofDigitChars_cons, hc]
      exact ih (fun d hd => hds d (List.mem_cons_of_mem _ hd)) _
  calc ofDigits 10 (decimalDigits n)
      = Nat.ofDigitChars 10 (decimalDigits n) 0 :=
        hvalue _ (fun _ => isDigit_of_mem_decimalDigits) 0
    _ = n := Nat.ofDigitChars_ten_toDigits

/-- A number written in a base is below the power of the base with as many zeros,
counted in units of a bound on what stands before. -/
theorem foldl_digits_lt {value : Char → Nat} {base start bound : Nat} {ds : List Char}
    (hdigit : ∀ c ∈ ds, value c < base) (hstart : start < bound) :
    ds.foldl (fun m c => base * m + value c) start < bound * base ^ ds.length := by
  induction ds generalizing start bound with
  | nil => simpa using hstart
  | cons c ds ih =>
    obtain ⟨hc, hds⟩ := List.forall_mem_cons.1 hdigit
    have hnext : base * start + value c < bound * base := by
      calc base * start + value c < base * start + base := by omega
        _ = (start + 1) * base := by rw [Nat.add_mul, Nat.one_mul, Nat.mul_comm]
        _ ≤ bound * base := Nat.mul_le_mul_right _ hstart
    rw [List.foldl_cons, List.length_cons, Nat.pow_succ', ← Nat.mul_assoc]
    exact ih hds hnext

theorem foldl_digits_zero_lt {value : Char → Nat} {base : Nat} {ds : List Char}
    (hdigit : ∀ c ∈ ds, value c < base) :
    ds.foldl (fun m c => base * m + value c) 0 < base ^ ds.length := by
  simpa using foldl_digits_lt hdigit Nat.zero_lt_one

end Number

namespace Text

variable {cs : List Char} {c : Char} {n : Int} {s : String}

/-! ## Plain numerals -/

/-- A character that no step before the reading of digits looks at: neither a
blank nor a sign, and not beyond the plain ones. -/
def Inert (c : Char) : Prop :=
  c.toNat < 0x80 ∧ isPlainBlank c = false

theorem toNat_of_isDigit (h : c.isDigit = true) : 48 ≤ c.toNat ∧ c.toNat ≤ 57 := by
  simpa [Char.isDigit, UInt32.le_iff_toNat_le] using h

theorem inert_of_isDigit (h : c.isDigit = true) : Inert c := by
  have hrange := toNat_of_isDigit h
  have hspace : c ≠ ' ' := by
    rintro rfl
    exact absurd h (by decide)
  refine ⟨by omega, ?_⟩
  simp only [isPlainBlank, Bool.or_eq_false_iff, beq_eq_false_iff_ne, Bool.and_eq_false_iff,
    decide_eq_false_iff_not]
  exact ⟨hspace, by omega⟩

/-- Without blanks and foreign digits nothing is left out or changed. -/
theorem stripPlain_plainForm (h : ∀ c ∈ cs, Inert c) : stripPlain (plainForm cs) = cs := by
  have hplain : plainForm cs = cs := by
    rw [plainForm, if_pos]
    simpa using fun c hc => (h c hc).1
  have hkeep : ∀ ds : List Char, (∀ c ∈ ds, Inert c) → ds.dropWhile isPlainBlank = ds := by
    intro ds hds
    cases ds with
    | nil => rfl
    | cons c ds => rw [List.dropWhile_cons, (hds c List.mem_cons_self).2, if_neg (by decide)]
  rw [hplain, stripPlain, hkeep cs h, hkeep _ fun c hc => h c (List.mem_reverse.1 hc),
    List.reverse_reverse]

theorem isDigitIn_of_isDigit (h : c.isDigit = true) : isDigitIn 10 c = true := by
  have hrange := toNat_of_isDigit h
  simp only [isDigitIn, Number.isHexDigit, Number.digitValue, h, Bool.true_or, Bool.true_and,
    if_true, decide_eq_true_eq]
  omega

/-- Digits without underscores are a group by themselves. -/
theorem ungroup?_digits (hne : cs ≠ []) (h : ∀ c ∈ cs, c.isDigit = true) :
    ungroup? 10 cs = some cs := by
  induction cs with
  | nil => exact absurd rfl hne
  | cons c rest ih =>
    have hc := isDigitIn_of_isDigit (h c List.mem_cons_self)
    cases rest with
    | nil => rw [ungroup?, if_pos hc]
    | cons d rest =>
      have hd : d ≠ '_' := by
        rintro rfl
        exact absurd (h '_' (by simp)) (by decide)
      have hrest := ih (List.cons_ne_nil d rest) fun e he => h e (List.mem_cons_of_mem _ he)
      rw [ungroup?, if_pos hc, hrest, Option.map_some]
      · exact fun hnil => List.cons_ne_nil _ _ hnil
      · exact fun _ hunderscore => hd (List.cons.inj hunderscore).1

theorem dropBase_ten : dropBase 10 cs = cs := by
  unfold dropBase
  split
  · simp [baseLetter?]
  · rfl

/-- Digits, with or without a minus sign, are read as what they write. -/
theorem readIntIn_digits (cs : List Char) (hne : cs ≠ []) (h : ∀ c ∈ cs, c.isDigit = true)
    (hlength : cs.length ≤ Number.maxDigits) :
    readIntIn 10 cs = .ok (Number.ofDigits 10 cs) ∧
      readIntIn 10 ('-' :: cs) = .ok (-(Number.ofDigits 10 cs : Int)) := by
  have hinert : ∀ c ∈ cs, Inert c := fun c hc => inert_of_isDigit (h c hc)
  have hbody : stripPlain (plainForm cs) = cs := stripPlain_plainForm hinert
  have hminus : stripPlain (plainForm ('-' :: cs)) = '-' :: cs :=
    stripPlain_plainForm (List.forall_mem_cons.2 ⟨⟨by decide, by decide⟩, hinert⟩)
  have hdigits := ungroup?_digits hne h
  constructor
  · -- the first digit is no sign
    have hsign : ∀ c ∈ cs, c ≠ '-' ∧ c ≠ '+' := by
      refine fun c hc => ⟨?_, ?_⟩ <;> rintro rfl <;> exact absurd (h _ hc) (by decide)
    obtain ⟨c, rest, rfl⟩ := List.exists_cons_of_ne_nil hne
    have hc := hsign c List.mem_cons_self
    unfold readIntIn
    simpa [hbody, hc, dropBase_ten, hdigits] using hlength
  · unfold readIntIn
    simp [hminus, dropBase_ten, hdigits, hlength]

/-- **What is written is read back**: an integer that has a numeral is what
the numeral reads as. -/
theorem readIntIn_writeInt (h : writeInt n = .ok s) : readIntIn 10 s.toList = .ok n := by
  unfold writeInt at h
  split at h
  · cases h
  · next hlength =>
    cases h
    have hread := readIntIn_digits (Number.decimalDigits n.natAbs) Nat.toDigits_ne_nil
      (fun _ => Number.isDigit_of_mem_decimalDigits) (by omega)
    rw [Number.ofDigits_decimalDigits] at hread
    rw [Number.intText, String.toList_ofList]
    split
    · rw [hread.2]
      exact congrArg Except.ok (by omega)
    · rw [hread.1]
      exact congrArg Except.ok (by omega)

/-! ## Texts of digits -/

/-- **A text of digits is a number** when it has not too many digits and none
of them is a typographic one. -/
theorem readDigitText_eq_ok_iff {m : Nat} :
    readDigitText cs = .ok m ↔
      cs.length ≤ Number.maxDigits ∧ (∀ c ∈ cs, isDecimal c = true) ∧ ofDecimals cs = m := by
  have hall : cs.takeWhile isDecimal = cs ↔ ∀ c ∈ cs, isDecimal c = true := by
    constructor
    · intro h
      rw [← List.all_eq_true, ← h]
      exact List.all_takeWhile
    · intro h
      have hrun : (cs ++ []).takeWhile isDecimal = cs ++ [].takeWhile isDecimal :=
        List.takeWhile_append_of_pos h
      simpa using hrun
  have hstart := List.takeWhile_prefix (l := cs) isDecimal
  unfold readDigitText
  by_cases hrun : cs.takeWhile isDecimal = cs
  · rw [hrun]
    by_cases hlength : cs.length ≤ Number.maxDigits
    · rw [if_neg (Nat.not_lt.2 hlength), if_neg (Nat.lt_irrefl _), Except.ok.injEq]
      exact ⟨fun h => ⟨hlength, hall.1 hrun, h⟩, fun h => h.2.2⟩
    · simp [hlength, Nat.lt_of_not_le hlength]
  · have hlt : (cs.takeWhile isDecimal).length < cs.length :=
      Nat.lt_of_le_of_ne hstart.length_le fun heq => hrun (hstart.eq_of_length heq)
    rw [hall] at hrun
    simp only [hlt, hrun, if_true]
    split <;> simp

/-- Digits write a number below the power of ten with as many zeros. -/
theorem ofDecimals_lt : ofDecimals cs < 10 ^ cs.length := by
  have hdigit : ∀ c ∈ cs, (digitValue? c).getD 0 < 10 := by
    intro c _
    cases hvalue : digitValue? c with
    | none => decide
    | some d => exact digitValue?_lt hvalue
  exact Number.foldl_digits_zero_lt hdigit

end Text

end Bibliography
