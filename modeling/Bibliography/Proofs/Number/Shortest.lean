import Bibliography.Number.Shortest
import Bibliography.Proofs.Number.Rounding
import Bibliography.Proofs.Text.Numeral
/-!
# The shortest decimal reads back

A number of double precision is what its shortest decimal is rounded to
(`ofDecimal_shortest`): a decimal that is found on a grid reads back since this
is what is tried there, and the exact decimal, which is the last resort, reads
back since it has the number's value. The zeros that are left out at the end
make up for the exponent (`ofDigits_trimZeros`).
-/

namespace Bibliography

namespace Number

variable {n : Nat} {ds ds' : List Char}

/-! ## Runs of digits -/

theorem digitValue_lt {c : Char} (h : c.isDigit = true) : digitValue c < 10 := by
  have hrange := Text.toNat_of_isDigit h
  rw [digitValue, if_pos h]
  omega

theorem ofDigits_append :
    ofDigits 10 (ds ++ ds') = ofDigits 10 ds * 10 ^ ds'.length + ofDigits 10 ds' := by
  have hstart : ∀ (l : List Char) (start : Nat),
      l.foldl (fun m c => 10 * m + digitValue c) start =
        start * 10 ^ l.length + l.foldl (fun m c => 10 * m + digitValue c) 0 := by
    intro l
    induction l with
    | nil => simp
    | cons c l ih =>
      intro start
      rw [List.foldl_cons, ih, List.foldl_cons, ih (10 * 0 + digitValue c), List.length_cons,
        Nat.pow_succ]
      ring
  unfold ofDigits
  rw [List.foldl_append, hstart]

theorem ofDigits_zeros (k : Nat) : ofDigits 10 (List.replicate k '0') = 0 := by
  induction k with
  | zero => rfl
  | succ k ih =>
    rw [List.replicate_succ', ofDigits_append, ih]
    rfl

/-- Zeros in front say nothing. -/
theorem ofDigits_zeros_append (k : Nat) :
    ofDigits 10 (List.replicate k '0' ++ ds) = ofDigits 10 ds := by
  rw [ofDigits_append, ofDigits_zeros, Nat.zero_mul, Nat.zero_add]

/-- A zero at the end makes ten times the number. -/
theorem ofDigits_append_zeros (k : Nat) :
    ofDigits 10 (ds ++ List.replicate k '0') = ofDigits 10 ds * 10 ^ k := by
  rw [ofDigits_append, ofDigits_zeros, List.length_replicate, Nat.add_zero]

theorem ofDigits_lt (h : ∀ c ∈ ds, c.isDigit = true) : ofDigits 10 ds < 10 ^ ds.length :=
  foldl_digits_zero_lt fun c hc => digitValue_lt (h c hc)

/-- A number below a power of ten has no more digits than zeros stand in it. -/
theorem length_decimalDigits_le {k : Nat} (hk : 0 < k) :
    (decimalDigits n).length ≤ k ↔ n < 10 ^ k :=
  Nat.length_toDigits_le_iff (by decide) hk

/-- The number that a run of digits writes needs no more of them. -/
theorem length_decimalDigits_ofDigits (hne : ds ≠ []) (h : ∀ c ∈ ds, c.isDigit = true) :
    (decimalDigits (ofDigits 10 ds)).length ≤ ds.length :=
  (length_decimalDigits_le (List.length_pos_iff.2 hne)).2 (ofDigits_lt h)

/-- No zero stands in front of the digits of a positive number. -/
theorem exists_decimalDigits_eq_cons (hn : 0 < n) :
    ∃ d rest, decimalDigits n = d :: rest ∧ d ≠ '0' := by
  have hdigitsNe : decimalDigits n ≠ [] := Nat.toDigits_ne_nil
  obtain ⟨d, rest, hcons⟩ := List.exists_cons_of_ne_nil hdigitsNe
  refine ⟨d, rest, hcons, fun hzero => ?_⟩
  have hdigits : ∀ c ∈ rest, c.isDigit = true := fun c hc =>
    isDigit_of_mem_decimalDigits (hcons ▸ List.mem_cons_of_mem _ hc)
  -- without its zero the rest would write the same number with one digit less
  have hvalue : ofDigits 10 rest = n := by
    calc ofDigits 10 rest = ofDigits 10 (List.replicate 1 '0' ++ rest) :=
          (ofDigits_zeros_append 1).symm
      _ = ofDigits 10 (decimalDigits n) := by
          rw [hcons, hzero]
          rfl
      _ = n := ofDigits_decimalDigits
  have hne : rest ≠ [] := by
    rintro rfl
    exact hn.ne hvalue
  have hle := length_decimalDigits_ofDigits hne hdigits
  rw [hvalue, hcons, List.length_cons] at hle
  omega

end Number

namespace Binary64

variable {ds : List Char} {m n : Nat} {e : Int} {negative : Bool}

/-! ## Zeros at the end -/

theorem trimZeros_append_zeros (ds : List Char) :
    ∃ k, ds = trimZeros ds ++ List.replicate k '0' := by
  have hzeros : ∀ c ∈ ds.reverse.takeWhile (· == '0'), c = '0' := by
    intro c hc
    simpa using List.all_eq_true.1 (List.all_takeWhile (p := (· == '0')) (l := ds.reverse)) c hc
  refine ⟨(ds.reverse.takeWhile (· == '0')).length, ?_⟩
  calc ds = (ds.reverse.takeWhile (· == '0') ++ ds.reverse.dropWhile (· == '0')).reverse := by
        rw [List.takeWhile_append_dropWhile, List.reverse_reverse]
    _ = trimZeros ds ++ (ds.reverse.takeWhile (· == '0')).reverse := by
        rw [List.reverse_append]
        rfl
    _ = trimZeros ds ++ List.replicate (ds.reverse.takeWhile (· == '0')).length '0' := by
        rw [List.eq_replicate_of_mem hzeros, List.reverse_replicate, List.length_replicate]

/-- **Zeros that are left out at the end count in the exponent.** -/
theorem ofDigits_trimZeros (x : Int) :
    (Number.ofDigits 10 (trimZeros ds) : ℚ) * 10 ^ (x + (ds.length - (trimZeros ds).length)) =
      Number.ofDigits 10 ds * 10 ^ x := by
  obtain ⟨k, hk⟩ := trimZeros_append_zeros ds
  have hvalue : Number.ofDigits 10 ds = Number.ofDigits 10 (trimZeros ds) * 10 ^ k := by
    rw [← Number.ofDigits_append_zeros, ← hk]
  have hlength : ds.length = (trimZeros ds).length + k := by
    have h := congrArg List.length hk
    rwa [List.length_append, List.length_replicate] at h
  have hexponent : x + ((ds.length : Int) - (trimZeros ds).length) = k + x := by
    omega
  rw [hexponent, hvalue, zpow_add₀ (by norm_num), zpow_natCast]
  push_cast
  ring

/-- What is left begins as before. -/
theorem exists_trimZeros_eq_cons {d : Char} {rest : List Char} (hd : d ≠ '0') :
    ∃ tail, trimZeros (d :: rest) = d :: tail := by
  obtain ⟨k, hk⟩ := trimZeros_append_zeros (d :: rest)
  cases htrim : trimZeros (d :: rest) with
  | nil =>
    have hmem : d ∈ List.replicate k '0' := by
      rw [htrim, List.nil_append] at hk
      rw [← hk]
      exact List.mem_cons_self
    exact absurd (List.eq_of_mem_replicate hmem) hd
  | cons c tail =>
    rw [htrim, List.cons_append] at hk
    obtain ⟨rfl, -⟩ := List.cons.inj hk
    exact ⟨tail, rfl⟩

theorem mem_of_mem_trimZeros {c : Char} (h : c ∈ trimZeros ds) : c ∈ ds := by
  obtain ⟨k, hk⟩ := trimZeros_append_zeros ds
  rw [hk]
  exact List.mem_append_left _ h

/-! ## The shortest decimal -/

theorem Neighbours.find?_eq_some {c : Neighbours} {passes : Nat → Int → Bool} {found : Nat × Int}
    (h : c.find? passes = some found) : passes found.1 found.2 = true := by
  unfold Neighbours.find? at h
  split at h
  · next hfirst =>
    obtain rfl := Option.some.inj h
    exact hfirst
  · split at h
    · next hsecond =>
      obtain rfl := Option.some.inj h
      exact hsecond
    · cases h

/-- What is found on a grid reads back. -/
theorem ofDecimal_of_onGrid? {found : Nat × Int} (h : onGrid? m e n = some found) :
    ofDecimal false found.1 found.2 = finite false m e := by
  have hreads : readsBack m e found.1 found.2 = true := Neighbours.find?_eq_some h
  exact beq_iff_eq.1 hreads

theorem exactDecimal_value (m : Nat) (e : Int) :
    ((exactDecimal m e).1 : ℚ) * 10 ^ (exactDecimal m e).2 = m * 2 ^ e := by
  unfold exactDecimal
  by_cases he : 0 ≤ e
  · have hpow : (2 : ℚ) ^ e = 2 ^ e.toNat := by
      rw [← zpow_natCast, Int.toNat_of_nonneg he]
    rw [if_pos he, hpow]
    simp
  · have hnegative : e = -((-e).toNat : Int) := by omega
    rw [if_neg he]
    generalize (-e).toNat = k at hnegative
    subst hnegative
    have hten : (10 : ℚ) ^ k = 5 ^ k * 2 ^ k := by
      rw [← mul_pow]
      norm_num
    simp only [zpow_neg, zpow_natCast, hten]
    simp only [Nat.pow_eq]
    push_cast
    field_simp

/-- What all attempts and the last resort have in common is so of the first
attempt that does not fail. -/
theorem firstFrom_induction {motive : Nat × Int → Prop} {attempt? : Nat → Option (Nat × Int)}
    {resort : Nat × Int} (hattempt : ∀ n found, attempt? n = some found → motive found)
    (hresort : motive resort) (n more : Nat) : motive (firstFrom attempt? resort n more) := by
  induction more generalizing n with
  | zero => exact hresort
  | succ more ih =>
    rw [firstFrom]
    split
    · next found hfound => exact hattempt n found hfound
    · exact ih (n + 1)

/-- **The shortest decimal reads back**, with either sign. -/
theorem ofDecimal_shortest (hm : 0 < m) (hformat : InFormat m e) :
    ofDecimal negative (shortest m e).1 (shortest m e).2 = finite negative m e :=
  ofDecimal_eq_finite <| firstFrom_induction (fun _ _ => ofDecimal_of_onGrid?)
    (ofDecimal_exact hm hformat (exactDecimal_value m e)) 1 17

/-- What is not zero is no rounded zero. -/
theorem pos_of_ofDecimal {digits : Nat} {x : Int} (hm : 0 < m)
    (h : ofDecimal negative digits x = finite negative m e) : 0 < digits := by
  refine Nat.pos_of_ne_zero fun hzero => ?_
  subst hzero
  have hread : ofDecimal negative 0 x = finite negative 0 (-1074) := rfl
  obtain ⟨-, hne, -⟩ := finite.inj (hread.symm.trans h)
  exact hm.ne hne

theorem shortest_fst_pos (hm : 0 < m) (hformat : InFormat m e) : 0 < (shortest m e).1 := by
  have hread : ofDecimal false (shortest m e).1 (shortest m e).2 = finite false m e :=
    ofDecimal_shortest hm hformat
  exact pos_of_ofDecimal hm hread

end Binary64

end Bibliography
