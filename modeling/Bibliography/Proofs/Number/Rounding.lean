import Mathlib.Algebra.Order.Field.Power
import Mathlib.Data.Int.Log
import Mathlib.Data.Rat.Floor
import Mathlib.Tactic.FieldSimp
import Mathlib.Tactic.Linarith
import Mathlib.Tactic.Positivity
import Mathlib.Tactic.Ring
import Bibliography.Number.Binary64
/-!
# Rounding to double precision

Rounding asks for nothing but the value: quotients and decimals of one value
round to one number (`ofRatio_congr`, `ofDecimal_congr`). What comes of it has
the form of double precision (`isDouble_ofDecimal`), and the decimal of a
number that has this form is rounded to the number itself (`ofDecimal_exact`).
-/

namespace Bibliography.Binary64

/-! ## The form of double precision -/

/-- **The form of a finite number**: a significand of at most 53 binary digits,
and as many of them as the exponent leaves room for. -/
structure InFormat (significand : Nat) (exponent : Int) : Prop where
  lt : significand < 2 ^ 53
  lowest : -1074 ≤ exponent
  highest : exponent ≤ 971
  full : 2 ^ 52 ≤ significand ∨ exponent = -1074

/-- A number of double precision. -/
def IsDouble : Binary64 → Prop
  | finite _ significand exponent => InFormat significand exponent
  | _ => True

/-! ## Rounding a quotient to an integer -/

section Quotients

variable {num den num' den' : Nat} {q : ℚ} {e : Int} {negative : Bool}

theorem roundQuotient_mul_left {k : Nat} (hk : 0 < k) :
    roundQuotient (k * num) (k * den) = roundQuotient num den := by
  have hdiv : k * num / (k * den) = num / den := Nat.mul_div_mul_left num den hk
  have hmod : k * num % (k * den) = k * (num % den) := Nat.mul_mod_mul_left k num den
  have hscale : 2 * (k * (num % den)) = k * (2 * (num % den)) := Nat.mul_left_comm ..
  unfold roundQuotient
  simp only [hdiv, hmod, hscale, Nat.mul_lt_mul_left hk]

/-- Rounding a quotient asks for its value only. -/
theorem roundQuotient_congr (hden : 0 < den) (hden' : 0 < den')
    (h : (num : ℚ) / den = num' / den') : roundQuotient num den = roundQuotient num' den' := by
  have hcross : num * den' = num' * den := by
    have hne : (den : ℚ) ≠ 0 := by positivity
    have hne' : (den' : ℚ) ≠ 0 := by positivity
    exact_mod_cast (div_eq_div_iff hne hne').1 h
  calc roundQuotient num den
      = roundQuotient (den' * num) (den' * den) := (roundQuotient_mul_left hden').symm
    _ = roundQuotient (den * num') (den * den') := by
        rw [Nat.mul_comm den' num, hcross, Nat.mul_comm num' den, Nat.mul_comm den' den]
    _ = roundQuotient num' den' := roundQuotient_mul_left hden

theorem roundQuotient_natCast {m : Nat} (hden : 0 < den) (h : (num : ℚ) / den = m) :
    roundQuotient num den = m := by
  have hone : roundQuotient m 1 = m := by
    unfold roundQuotient
    simp [Nat.mod_one]
  rw [← hone]
  exact roundQuotient_congr hden Nat.one_pos (by simpa using h)

/-- A quotient below a power of two is rounded to the power at most, and one
that is not below it stays so. -/
theorem roundQuotient_le {bound : Nat} (hden : 0 < den) (h : (num : ℚ) / den < bound) :
    roundQuotient num den ≤ bound := by
  have hlt : num < bound * den := by
    have hpos : (0 : ℚ) < den := by positivity
    exact_mod_cast (div_lt_iff₀ hpos).1 h
  have hdiv : num / den < bound := (Nat.div_lt_iff_lt_mul hden).2 hlt
  unfold roundQuotient
  dsimp only
  split
  · omega
  · split <;> omega

theorem le_roundQuotient {bound : Nat} (hden : 0 < den) (h : bound ≤ (num : ℚ) / den) :
    bound ≤ roundQuotient num den := by
  have hle : bound * den ≤ num := by
    have hpos : (0 : ℚ) < den := by positivity
    exact_mod_cast (le_div_iff₀ hpos).1 h
  have hdiv : bound ≤ num / den := (Nat.le_div_iff_mul_le hden).2 hle
  unfold roundQuotient
  dsimp only
  split
  · omega
  · split <;> omega

/-! ## The exponent of a quotient -/

theorem scaleDown_snd_pos (num : Nat) (e : Int) (hden : 0 < den) : 0 < (scaleDown num den e).2 := by
  unfold scaleDown
  split
  · exact Nat.mul_pos hden (Nat.pow_pos (by decide))
  · exact hden

theorem scaleDown_value (num den : Nat) (e : Int) :
    ((scaleDown num den e).1 : ℚ) / (scaleDown num den e).2 = num / den / 2 ^ e := by
  unfold scaleDown
  split
  · next hle =>
    have hpow : (2 : ℚ) ^ e = 2 ^ e.toNat := by
      rw [← zpow_natCast, Int.toNat_of_nonneg hle]
    rw [hpow, div_div]
    simp only [Nat.pow_eq]
    push_cast
    rfl
  · next hlt =>
    have hpow : (2 : ℚ) ^ e = (2 ^ (-e).toNat)⁻¹ := by
      rw [← zpow_natCast, Int.toNat_of_nonneg (by omega), zpow_neg, inv_inv]
    rw [hpow, div_inv_eq_mul]
    simp only [Nat.pow_eq]
    push_cast
    ring

theorem log_lt_iff {x : Int} (hq : 0 < q) : Int.log 2 q < x ↔ q < 2 ^ x := by
  have h := Int.lt_zpow_iff_log_lt (b := 2) (x := x) (by decide) hq
  exact_mod_cast h.symm

theorem le_log_iff {x : Int} (hq : 0 < q) : x ≤ Int.log 2 q ↔ 2 ^ x ≤ q := by
  have h := Int.zpow_le_iff_le_log (b := 2) (x := x) (by decide) hq
  exact_mod_cast h.symm

/-- The exponent that a positive value is rounded at: it leaves 53 binary
digits above it, unless that would be too low. -/
def exponentOf (q : ℚ) : Int :=
  max (Int.log 2 q - 52) (-1074)

/-- The first guess at the exponent is right or by one too high. -/
theorem guess_spec (hnum : 0 < num) (hden : 0 < den) :
    (if (scaleDown num den ((num.log2 : Int) - den.log2 - 52)).1 <
        2 ^ 52 * (scaleDown num den ((num.log2 : Int) - den.log2 - 52)).2 then
      ((num.log2 : Int) - den.log2 - 52) - 1
    else (num.log2 : Int) - den.log2 - 52) = Int.log 2 ((num : ℚ) / den) - 52 := by
  have hnumq : (0 : ℚ) < num := by positivity
  have hdenq : (0 : ℚ) < den := by positivity
  have hq : (0 : ℚ) < num / den := by positivity
  have hnumLow : (2 : ℚ) ^ (num.log2 : Int) ≤ num := by
    exact_mod_cast Nat.log2_self_le hnum.ne'
  have hnumHigh : (num : ℚ) < 2 ^ ((num.log2 : Int) + 1) := by
    exact_mod_cast Nat.lt_log2_self
  have hdenLow : (2 : ℚ) ^ (den.log2 : Int) ≤ den := by
    exact_mod_cast Nat.log2_self_le hden.ne'
  have hdenHigh : (den : ℚ) < 2 ^ ((den.log2 : Int) + 1) := by
    exact_mod_cast Nat.lt_log2_self
  -- the quotient of two numbers lies between the quotients of the powers around them
  have hlow : (num.log2 : Int) - den.log2 - 1 ≤ Int.log 2 ((num : ℚ) / den) := by
    rw [le_log_iff hq, le_div_iff₀ hdenq]
    calc (2 : ℚ) ^ ((num.log2 : Int) - den.log2 - 1) * den
        ≤ 2 ^ ((num.log2 : Int) - den.log2 - 1) * 2 ^ ((den.log2 : Int) + 1) := by
          gcongr
      _ = 2 ^ (num.log2 : Int) := by
          rw [← zpow_add₀ (by norm_num)]
          congr 1
          ring
      _ ≤ num := hnumLow
  have hhigh : Int.log 2 ((num : ℚ) / den) < (num.log2 : Int) - den.log2 + 1 := by
    rw [log_lt_iff hq, div_lt_iff₀ hdenq]
    calc (num : ℚ) < 2 ^ ((num.log2 : Int) + 1) := hnumHigh
      _ = 2 ^ ((num.log2 : Int) - den.log2 + 1) * 2 ^ (den.log2 : Int) := by
          rw [← zpow_add₀ (by norm_num)]
          congr 1
          ring
      _ ≤ (2 : ℚ) ^ ((num.log2 : Int) - den.log2 + 1) * den := by
          gcongr
  generalize hguess : (num.log2 : Int) - den.log2 - 52 = guess
  have hpos := scaleDown_snd_pos num guess hden
  have hposq : (0 : ℚ) < (scaleDown num den guess).2 := by positivity
  have htest : (scaleDown num den guess).1 < 2 ^ 52 * (scaleDown num den guess).2 ↔
      Int.log 2 ((num : ℚ) / den) < guess + 52 := by
    rw [log_lt_iff hq]
    have hscaled := scaleDown_value num den guess
    have hpow : (0 : ℚ) < 2 ^ guess := by positivity
    calc (scaleDown num den guess).1 < 2 ^ 52 * (scaleDown num den guess).2
        ↔ ((scaleDown num den guess).1 : ℚ) / (scaleDown num den guess).2 < 2 ^ 52 := by
          rw [div_lt_iff₀ hposq]
          exact_mod_cast Iff.rfl
      _ ↔ (num : ℚ) / den < 2 ^ 52 * 2 ^ guess := by rw [hscaled, div_lt_iff₀ hpow]
      _ ↔ (num : ℚ) / den < (2 : ℚ) ^ (guess + 52) := by
          rw [zpow_add₀ (by norm_num), mul_comm]
          norm_num
  by_cases h : (scaleDown num den guess).1 < 2 ^ 52 * (scaleDown num den guess).2
  · have hlog := htest.1 h
    rw [if_pos h]
    omega
  · have hlog : ¬ Int.log 2 ((num : ℚ) / den) < guess + 52 := fun hlt => h (htest.2 hlt)
    rw [if_neg h]
    omega

/-! ## Rounding a quotient to double precision -/

/-- The number of a rounded significand: one that has grown to 54 digits loses
its last, which is zero, and what is too great is infinite. -/
def pack (negative : Bool) (m : Nat) (e : Int) : Binary64 :=
  let (m, e) := if m = 2 ^ 53 then (2 ^ 52, e + 1) else (m, e)
  if 971 < e then infinity negative else finite negative m e

/-- **What a quotient is rounded to**, by its value. -/
theorem ofRatio_eq_pack (hnum : 0 < num) (hden : 0 < den) {e : Int}
    (he : exponentOf ((num : ℚ) / den) = e) :
    ofRatio negative num den =
      pack negative (roundQuotient (scaleDown num den e).1 (scaleDown num den e).2) e := by
  have hguess := guess_spec hnum hden
  subst he
  unfold ofRatio exponentOf
  rw [if_neg hnum.ne']
  simp only [← hguess]
  rfl

/-- **Rounding asks for the value only.** -/
theorem ofRatio_congr (hden : 0 < den) (hden' : 0 < den')
    (h : (num : ℚ) / den = num' / den') :
    ofRatio negative num den = ofRatio negative num' den' := by
  rcases Nat.eq_zero_or_pos num with rfl | hnum
  · have hnum' : num' = 0 := by
      have hzero : (num' : ℚ) / den' = 0 := by simpa using h.symm
      have hne : (den' : ℚ) ≠ 0 := by positivity
      exact_mod_cast (div_eq_zero_iff.1 hzero).resolve_right hne
    rw [hnum']
    rfl
  · have hnum' : 0 < num' := by
      refine Nat.pos_of_ne_zero fun hzero => ?_
      have hq : (0 : ℚ) < num / den := by positivity
      rw [h, hzero] at hq
      simp at hq
    generalize he : exponentOf ((num : ℚ) / den) = e
    have he' : exponentOf ((num' : ℚ) / den') = e := by rw [← h, he]
    have hvalue : ((scaleDown num den e).1 : ℚ) / (scaleDown num den e).2 =
        (scaleDown num' den' e).1 / (scaleDown num' den' e).2 := by
      rw [scaleDown_value, scaleDown_value, h]
    have hround := roundQuotient_congr (scaleDown_snd_pos num e hden)
      (scaleDown_snd_pos num' e hden') hvalue
    rw [ofRatio_eq_pack hnum hden he, ofRatio_eq_pack hnum' hden' he', hround]

/-- What is rounded has the form of double precision. -/
theorem isDouble_ofRatio (hden : 0 < den) : IsDouble (ofRatio negative num den) := by
  rcases Nat.eq_zero_or_pos num with rfl | hnum
  · exact ⟨by decide, by decide, by decide, .inr rfl⟩
  · have hq : (0 : ℚ) < num / den := by positivity
    rw [ofRatio_eq_pack hnum hden rfl]
    generalize he : exponentOf ((num : ℚ) / den) = e
    have hvalue := scaleDown_value num den e
    have hpos := scaleDown_snd_pos num e hden
    have hpow : (0 : ℚ) < 2 ^ e := by positivity
    -- below 54 binary digits, and not below 53 of them unless the exponent is the lowest
    have hlt : (num : ℚ) / den / 2 ^ e < ((2 ^ 53 : Nat) : ℚ) := by
      have hlog : Int.log 2 ((num : ℚ) / den) < 53 + e := by
        unfold exponentOf at he
        omega
      rw [div_lt_iff₀ hpow]
      have h := (log_lt_iff hq).1 hlog
      rw [zpow_add₀ (by norm_num)] at h
      exact_mod_cast h
    have hle : e = -1074 ∨ ((2 ^ 52 : Nat) : ℚ) ≤ (num : ℚ) / den / 2 ^ e := by
      by_cases hlow : e = -1074
      · exact .inl hlow
      · right
        have hlog : 52 + e ≤ Int.log 2 ((num : ℚ) / den) := by
          unfold exponentOf at he
          omega
        rw [le_div_iff₀ hpow]
        have h := (le_log_iff hq).1 hlog
        rw [zpow_add₀ (by norm_num)] at h
        exact_mod_cast h
    rw [← hvalue] at hlt hle
    have hm := roundQuotient_le hpos hlt
    have hfull : e = -1074 ∨
        2 ^ 52 ≤ roundQuotient (scaleDown num den e).1 (scaleDown num den e).2 :=
      hle.imp id (le_roundQuotient hpos)
    have hlowest : -1074 ≤ e := by
      unfold exponentOf at he
      omega
    generalize roundQuotient (scaleDown num den e).1 (scaleDown num den e).2 = m at hm hfull
    -- a significand that has grown to 2 ^ 53 is halved, which leaves it full
    unfold pack
    by_cases hgrown : m = 2 ^ 53
    · rw [if_pos hgrown]
      by_cases hbig : 971 < e + 1
      · simp only [if_pos hbig]
        trivial
      · simp only [if_neg hbig]
        exact ⟨by decide, by omega, by omega, .inl (Nat.le_refl _)⟩
    · rw [if_neg hgrown]
      by_cases hbig : 971 < e
      · simp only [if_pos hbig]
        trivial
      · simp only [if_neg hbig]
        exact ⟨by omega, hlowest, by omega, hfull.symm⟩

/-- A quotient that has the value of a number in the format is rounded to it. -/
theorem ofRatio_exact {m : Nat} (hden : 0 < den) (hm : 0 < m) (hformat : InFormat m e)
    (h : (num : ℚ) / den = m * 2 ^ e) : ofRatio negative num den = finite negative m e := by
  have hpow : (0 : ℚ) < 2 ^ e := by positivity
  have hmq : (0 : ℚ) < m := by positivity
  have hq : (0 : ℚ) < num / den := by
    rw [h]
    positivity
  have hnum : 0 < num := by
    refine Nat.pos_of_ne_zero fun hzero => ?_
    rw [hzero] at hq
    simp at hq
  have hexponent : exponentOf ((num : ℚ) / den) = e := by
    have hhigh : Int.log 2 ((num : ℚ) / den) < 53 + e := by
      rw [log_lt_iff hq, h, zpow_add₀ (by norm_num)]
      gcongr
      exact_mod_cast hformat.lt
    have hlow : e = -1074 ∨ 52 + e ≤ Int.log 2 ((num : ℚ) / den) := by
      refine hformat.full.symm.imp id fun hfull => ?_
      rw [le_log_iff hq, h, zpow_add₀ (by norm_num)]
      gcongr
      exact_mod_cast hfull
    have hlowest := hformat.lowest
    unfold exponentOf
    omega
  have hround : roundQuotient (scaleDown num den e).1 (scaleDown num den e).2 = m := by
    refine roundQuotient_natCast (scaleDown_snd_pos num e hden) ?_
    rw [scaleDown_value, h, mul_div_cancel_right₀ _ hpow.ne']
  have hne : m ≠ 2 ^ 53 := hformat.lt.ne
  have hbig : ¬ 971 < e := Int.not_lt.2 hformat.highest
  rw [ofRatio_eq_pack hnum hden hexponent, hround, pack, if_neg hne]
  simp only [if_neg hbig]

/-- The sign has no part in rounding. -/
theorem ofRatio_eq_finite {m : Nat} (hden : 0 < den)
    (h : ofRatio false num den = finite false m e) :
    ofRatio negative num den = finite negative m e := by
  rcases Nat.eq_zero_or_pos num with rfl | hnum
  · have hzero : finite false 0 (-1074) = finite false m e := h
    cases hzero
    rfl
  · rw [ofRatio_eq_pack hnum hden rfl] at h ⊢
    generalize roundQuotient _ _ = r at h ⊢
    unfold pack at h ⊢
    by_cases hbig : 971 < (if r = 2 ^ 53 then (2 ^ 52, exponentOf (num / den) + 1)
        else (r, exponentOf (num / den))).2
    · simp only [if_pos hbig] at h
      cases h
    · simp only [if_neg hbig] at h ⊢
      obtain ⟨-, rfl, rfl⟩ := finite.inj h
      rfl

end Quotients

/-! ## Rounding a decimal -/

section Decimals

variable {digits digits' m : Nat} {x x' e : Int} {negative : Bool}

/-- Where the leading digit of a decimal stands. -/
def top (digits : Nat) (x : Int) : Int :=
  (Number.decimalDigits digits).length + x

theorem top_eq (hdigits : 0 < digits) : top digits x = Int.log 10 ((digits : ℚ) * 10 ^ x) + 1 := by
  have hpow : (0 : ℚ) < 10 ^ x := by positivity
  have hq : (0 : ℚ) < digits * 10 ^ x := by positivity
  have hpos : 0 < (Number.decimalDigits digits).length := List.length_pos_iff.2 Nat.toDigits_ne_nil
  have hhigh : digits < 10 ^ (Number.decimalDigits digits).length :=
    (Nat.length_toDigits_le_iff (by decide) hpos).1 (Nat.le_refl _)
  have hlow : 10 ^ ((Number.decimalDigits digits).length - 1) ≤ digits := by
    rcases Nat.eq_zero_or_pos ((Number.decimalDigits digits).length - 1) with hone | hmore
    · rw [hone]
      exact hdigits
    · refine Nat.le_of_not_lt fun hlt => ?_
      have hshort := (Nat.length_toDigits_le_iff (b := 10) (by decide) hmore).2 hlt
      unfold Number.decimalDigits at hpos hshort
      omega
  unfold top
  generalize (Number.decimalDigits digits).length = length at hpos hhigh hlow ⊢
  have hlt : Int.log 10 ((digits : ℚ) * 10 ^ x) < length + x := by
    rw [← Int.lt_zpow_iff_log_lt (by decide) hq]
    push_cast
    rw [zpow_add₀ (by norm_num), zpow_natCast]
    gcongr
    exact_mod_cast hhigh
  have hle : (length : Int) - 1 + x ≤ Int.log 10 ((digits : ℚ) * 10 ^ x) := by
    rw [← Int.zpow_le_iff_le_log (by decide) hq]
    have hcast : (length : Int) - 1 = ((length - 1 : Nat) : Int) := by omega
    push_cast
    rw [zpow_add₀ (by norm_num), hcast, zpow_natCast]
    gcongr
    exact_mod_cast hlow
  omega

/-- **What a decimal is rounded to**: that of its value as a quotient, unless
it is far outside the range of the format. -/
theorem exists_ofDecimal_eq (digits : Nat) (x : Int) :
    ∃ num den : Nat, 0 < den ∧ (num : ℚ) / den = digits * 10 ^ x ∧ ∀ negative,
      ofDecimal negative digits x =
        if digits = 0 ∨ top digits x < -400 then finite negative 0 (-1074)
        else if 400 < top digits x then infinity negative
        else ofRatio negative num den := by
  by_cases hx : 0 ≤ x
  · refine ⟨digits * 10 ^ x.toNat, 1, Nat.one_pos, ?_, fun negative => ?_⟩
    · have hpow : (10 : ℚ) ^ x = 10 ^ x.toNat := by
        rw [← zpow_natCast, Int.toNat_of_nonneg hx]
      rw [hpow]
      push_cast
      ring
    · simp [ofDecimal, top, hx]
      congr
  · refine ⟨digits, 10 ^ (-x).toNat, Nat.pow_pos (by decide), ?_, fun negative => ?_⟩
    · have hpow : (10 : ℚ) ^ x = (10 ^ (-x).toNat)⁻¹ := by
        rw [← zpow_natCast, Int.toNat_of_nonneg (by omega), zpow_neg, inv_inv]
      rw [hpow]
      push_cast
      ring
    · simp [ofDecimal, top, hx]
      congr

/-- **Rounding a decimal asks for its value only.** -/
theorem ofDecimal_congr (h : (digits : ℚ) * 10 ^ x = digits' * 10 ^ x') :
    ofDecimal negative digits x = ofDecimal negative digits' x' := by
  obtain ⟨num, den, hden, hvalue, hround⟩ := exists_ofDecimal_eq digits x
  obtain ⟨num', den', hden', hvalue', hround'⟩ := exists_ofDecimal_eq digits' x'
  have hpow : (10 : ℚ) ^ x ≠ 0 := by positivity
  have hpow' : (10 : ℚ) ^ x' ≠ 0 := by positivity
  have hzero : digits = 0 ↔ digits' = 0 := by
    have hboth : (digits : ℚ) * 10 ^ x = 0 ↔ (digits' : ℚ) * 10 ^ x' = 0 := by rw [h]
    simpa [hpow, hpow'] using hboth
  have htop : digits ≠ 0 → top digits x = top digits' x' := by
    intro hne
    rw [top_eq (Nat.pos_of_ne_zero hne), top_eq (Nat.pos_of_ne_zero (mt hzero.2 hne)), h]
  have hratio : ofRatio negative num den = ofRatio negative num' den' :=
    ofRatio_congr hden hden' (by rw [hvalue, hvalue', h])
  rw [hround, hround', hratio]
  by_cases hne : digits = 0
  · simp [hne, hzero.1 hne]
  · simp only [hne, mt hzero.2 hne, htop hne]

/-- **What a decimal is rounded to is of double precision.** -/
theorem isDouble_ofDecimal : IsDouble (ofDecimal negative digits x) := by
  obtain ⟨num, den, hden, -, hround⟩ := exists_ofDecimal_eq digits x
  rw [hround]
  split
  · exact ⟨by decide, by decide, by decide, .inr rfl⟩
  · split
    · trivial
    · exact isDouble_ofRatio hden

/-- **A decimal of the value of a number in the format is rounded to it.** -/
theorem ofDecimal_exact (hm : 0 < m) (hformat : InFormat m e)
    (h : (digits : ℚ) * 10 ^ x = m * 2 ^ e) : ofDecimal negative digits x = finite negative m e := by
  obtain ⟨num, den, hden, hvalue, hround⟩ := exists_ofDecimal_eq digits x
  have hpow : (0 : ℚ) < 2 ^ e := by positivity
  have hpow' : (0 : ℚ) < 10 ^ x := by positivity
  have hmq : (1 : ℚ) ≤ m := by exact_mod_cast hm
  have hdigits : 0 < digits := by
    refine Nat.pos_of_ne_zero fun hzero => ?_
    have hpositive : (0 : ℚ) < m * 2 ^ e := by positivity
    rw [← h, hzero] at hpositive
    simp at hpositive
  have hq : (0 : ℚ) < digits * 10 ^ x := by positivity
  -- the format has no number near the ends of the range that is looked at
  have hlow : -401 ≤ Int.log 10 ((digits : ℚ) * 10 ^ x) := by
    rw [← Int.zpow_le_iff_le_log (by decide) hq, h]
    have hpowers : (2 : ℚ) ^ 1074 ≤ 10 ^ 401 := by
      calc (2 : ℚ) ^ 1074 = (2 ^ 3) ^ 358 := by rw [← pow_mul]
        _ ≤ 10 ^ 358 := pow_le_pow_left₀ (by norm_num) (by norm_num) _
        _ ≤ 10 ^ 401 := pow_le_pow_right₀ (by norm_num) (by norm_num)
    calc ((10 : Nat) : ℚ) ^ (-401 : Int) = (10 ^ 401)⁻¹ := by
          rw [zpow_neg]
          rfl
      _ ≤ (2 ^ 1074)⁻¹ := inv_anti₀ (by positivity) hpowers
      _ = 2 ^ (-1074 : Int) := by
          rw [zpow_neg]
          rfl
      _ ≤ 2 ^ e := zpow_le_zpow_right₀ (by norm_num) hformat.lowest
      _ ≤ m * 2 ^ e := le_mul_of_one_le_left hpow.le hmq
  have hhigh : Int.log 10 ((digits : ℚ) * 10 ^ x) < 400 := by
    rw [← Int.lt_zpow_iff_log_lt (by decide) hq, h]
    have hlt : (m : ℚ) < 2 ^ 53 := by exact_mod_cast hformat.lt
    calc (m : ℚ) * 2 ^ e < 2 ^ 53 * 2 ^ e := by gcongr
      _ ≤ 2 ^ 53 * 2 ^ (971 : Int) := by
          gcongr
          · norm_num
          · exact hformat.highest
      _ = (2 ^ 3) ^ 341 * 2 := by
          rw [← pow_mul, ← pow_succ, ← zpow_natCast, ← zpow_natCast, ← zpow_add₀ (by norm_num)]
          rfl
      _ ≤ 10 ^ 341 * 10 := by
          gcongr <;> norm_num
      _ ≤ 10 ^ 400 := by
          rw [← pow_succ]
          exact pow_le_pow_right₀ (by norm_num) (by norm_num)
      _ = ((10 : Nat) : ℚ) ^ (400 : Int) := rfl
  have htop := top_eq (x := x) hdigits
  rw [hround, if_neg (by omega), if_neg (by omega)]
  exact ofRatio_exact hden hm hformat (by rw [hvalue, h])

/-- The sign has no part in rounding. -/
theorem ofDecimal_eq_finite (h : ofDecimal false digits x = finite false m e) :
    ofDecimal negative digits x = finite negative m e := by
  obtain ⟨num, den, hden, -, hround⟩ := exists_ofDecimal_eq digits x
  rw [hround] at h ⊢
  by_cases hzero : digits = 0 ∨ top digits x < -400
  · rw [if_pos hzero] at h ⊢
    cases h
    rfl
  · rw [if_neg hzero] at h ⊢
    by_cases hbig : 400 < top digits x
    · rw [if_pos hbig] at h
      cases h
    · rw [if_neg hbig] at h ⊢
      exact ofRatio_eq_finite hden h

end Decimals

end Bibliography.Binary64
