import Bibliography.Output.Terminal
import Bibliography.Proofs.Json.Grammar
import Bibliography.Proofs.Text.Numeral
/-!
# What the terminal leaves of a text

The terminal leaves control sequences out of what is printed. None goes over the end of a
line, so lines are printed one by one (`plain_append_line`), and a text without escape
characters is printed as it is (`plain_append`). JSON text has none: but for the blanks
between its tokens, control characters stand in it only by their numbers
(`isShown_or_isSpace`), so it is printed as it is, too (`plain_of_writes`).
-/

namespace Bibliography

namespace Json

/-- No control character. -/
def IsShown (c : Char) : Prop := 0x20 ≤ c.toNat

instance (c : Char) : Decidable (IsShown c) :=
  inferInstanceAs (Decidable (0x20 ≤ c.toNat))

theorem isShown_of_all {cs : List Char} (h : cs.all (fun c => decide (IsShown c)) = true) :
    ∀ c ∈ cs, IsShown c :=
  fun c hc => of_decide_eq_true (List.all_eq_true.1 h c hc)

theorem isShown_of_isHexDigit {c : Char} (h : Number.isHexDigit c = true) : IsShown c := by
  have hcontrol : ∀ n < 0x20, Number.isHexDigit (Char.ofNat n) = false := by decide
  refine Nat.le_of_not_lt fun hlt => ?_
  have hc := hcontrol c.toNat hlt
  rw [Char.ofNat_toNat, h] at hc
  cases hc

theorem IsDigits.isShown {ds : List Char} (h : IsDigits ds) : ∀ c ∈ ds, IsShown c :=
  fun c hc => isShown_of_isHexDigit (by simp [Number.isHexDigit, h.isDigit c hc])

theorem isShown_of_escaped? {e c : Char} (h : Token.escaped? e = some c) : IsShown e := by
  unfold Token.escaped? at h
  split at h
  case h_9 => cases h
  all_goals decide

theorem SpellsUnits.isShown {units : List Nat} {cs : List Char} (h : SpellsUnits units cs) :
    ∀ c ∈ cs, IsShown c := by
  have hbackslash : IsShown '\\' := by decide
  induction h with
  | nil => exact nofun
  | plain hcontrol _ _ _ ih => exact List.forall_mem_cons.2 ⟨hcontrol, ih⟩
  | escape he _ ih =>
    exact List.forall_mem_cons.2 ⟨hbackslash, List.forall_mem_cons.2 ⟨isShown_of_escaped? he, ih⟩⟩
  | @unicode a b c d units cs hex _ ih =>
    have hdigits : ∀ x ∈ [a, b, c, d], IsShown x := fun x hx =>
      isShown_of_isHexDigit (List.all_eq_true.1 hex x hx)
    have hmark : ∀ x ∈ ['\\', 'u'], IsShown x := isShown_of_all (by decide)
    have hall : ∀ x ∈ ['\\', 'u'] ++ ([a, b, c, d] ++ cs), IsShown x :=
      List.forall_mem_append.2 ⟨hmark, List.forall_mem_append.2 ⟨hdigits, ih⟩⟩
    exact hall

theorem SpellsFraction.isShown {fs text : List Char} (h : SpellsFraction fs text) :
    ∀ c ∈ text, IsShown c := by
  cases h with
  | absent => exact nofun
  | digits h => exact List.forall_mem_cons.2 ⟨by decide, h.isShown⟩

theorem SpellsPower.isShown {power : Option Int} {text : List Char} (h : SpellsPower power text) :
    ∀ c ∈ text, IsShown c := by
  have hletter : ∀ e, e = 'e' ∨ e = 'E' → IsShown e := by
    rintro e (rfl | rfl) <;> decide
  cases h with
  | absent => exact nofun
  | @positive e sign ds he hsign h =>
    have hplus : ∀ c ∈ sign, IsShown c := by
      rcases hsign with rfl | rfl
      · exact nofun
      · exact isShown_of_all (by decide)
    exact List.forall_mem_cons.2 ⟨hletter _ he, List.forall_mem_append.2 ⟨hplus, h.isShown⟩⟩
  | negative he h =>
    exact List.forall_mem_cons.2 ⟨hletter _ he, List.forall_mem_cons.2 ⟨by decide, h.isShown⟩⟩

theorem Token.Spells.isShown {t : Token} {text : List Char} (h : t.Spells text) :
    ∀ c ∈ text, IsShown c := by
  cases h with
  | mark h =>
    have hmarks : ∀ c ∈ marks.map (·.1), IsShown c := isShown_of_all (by decide)
    exact List.forall_mem_singleton.2 (hmarks _ (List.mem_map_of_mem h))
  | literal h =>
    have hliterals : (literals.map (·.1)).all (·.all fun c => decide (IsShown c)) = true := by
      decide
    exact isShown_of_all (List.all_eq_true.1 hliterals _ (List.mem_map_of_mem h))
  | @number negative ds fs ftext ptext power hds hfs hpower =>
    have hsign : ∀ c ∈ signText negative, IsShown c := by
      cases negative <;> exact isShown_of_all (by decide)
    exact List.forall_mem_append.2 ⟨hsign, List.forall_mem_append.2 ⟨hds.toIsDigits.isShown,
      List.forall_mem_append.2 ⟨hfs.isShown, hpower.isShown⟩⟩⟩
  | str h =>
    exact List.forall_mem_cons.2 ⟨by decide,
      List.forall_mem_append.2 ⟨h.isShown, List.forall_mem_singleton.2 (by decide)⟩⟩

/-- **Of all control characters, JSON text has blanks only.** -/
theorem isShown_or_isSpace {ts : List Token} {cs : List Char} (h : Writes ts cs) :
    ∀ c ∈ cs, IsShown c ∨ Token.isSpace c = true := by
  induction h with
  | nil => exact nofun
  | gap hc _ ih => exact List.forall_mem_cons.2 ⟨.inr hc, ih⟩
  | token ht _ ih => exact List.forall_mem_append.2 ⟨fun c hc => .inl (ht.isShown c hc), ih⟩

end Json

namespace Output

/-! ## Texts without escape characters -/

section Controls

variable {c : Char} {cs ds after : List Char} {s s' : String}

theorem withoutControls_of_some (h : afterControl? cs = some after) :
    withoutControls cs = withoutControls after := by
  rw [withoutControls]
  split
  · next hafter =>
    rw [h] at hafter
    cases hafter
    rfl
  · next hnone =>
    rw [h] at hnone
    cases hnone

theorem withoutControls_cons (h : afterControl? (c :: cs) = none) :
    withoutControls (c :: cs) = c :: withoutControls cs := by
  rw [withoutControls]
  split
  · next hsome =>
    rw [h] at hsome
    cases hsome
  · rfl

/-- A control sequence starts with an escape character and a bracket. -/
theorem afterControl?_eq_none (h : ¬ ∃ rest, cs = '\x1b' :: '[' :: rest) :
    afterControl? cs = none := by
  unfold afterControl?
  split
  · next rest => exact absurd ⟨rest, rfl⟩ h
  · rfl

theorem withoutControls_nil : withoutControls [] = [] := by
  rw [withoutControls]
  rfl

/-- What has no escape character in front of a text is printed as it is. -/
theorem withoutControls_append (h : '\x1b' ∉ cs) :
    withoutControls (cs ++ ds) = cs ++ withoutControls ds := by
  induction cs with
  | nil => rfl
  | cons c cs ih =>
    have hne : c ≠ '\x1b' := fun hc => h (hc ▸ List.mem_cons_self)
    have hnone : afterControl? (c :: (cs ++ ds)) = none :=
      afterControl?_eq_none fun ⟨_, hcons⟩ => hne (List.cons.inj hcons).1
    rw [List.cons_append, withoutControls_cons hnone, ih (List.not_mem_of_not_mem_cons h),
      List.cons_append]

/-- A text without escape characters is printed as it is. -/
theorem withoutControls_eq_self (h : '\x1b' ∉ cs) : withoutControls cs = cs := by
  rw [← List.append_nil cs, withoutControls_append h, withoutControls_nil]

/-! ## Lines -/

/-- No control sequence goes over the end of a line. -/
theorem afterControl?_append_line (cs ds : List Char) :
    afterControl? (cs ++ '\n' :: ds) = (afterControl? cs).map (· ++ '\n' :: ds) := by
  have hparameter : isParameter '\n' = false := by decide
  have hletter : '\n'.isAlpha = false := by decide
  by_cases hfront : ∃ rest, cs = '\x1b' :: '[' :: rest
  · obtain ⟨rest, rfl⟩ := hfront
    have hdrop : (rest ++ '\n' :: ds).dropWhile isParameter =
        rest.dropWhile isParameter ++ '\n' :: ds := by
      rw [List.dropWhile_append]
      split
      · next hnil => simp [List.isEmpty_iff.1 hnil, hparameter]
      · rfl
    simp only [List.cons_append, afterControl?, hdrop]
    cases rest.dropWhile isParameter with
    | nil => simp [hletter]
    | cons c later => by_cases hc : c.isAlpha <;> simp [hc]
  · have hfront' : ¬ ∃ rest, cs ++ '\n' :: ds = '\x1b' :: '[' :: rest := by
      rintro ⟨rest, h⟩
      match cs with
      | [] => simp at h
      | [c] => simp at h
      | c :: d :: later =>
        obtain ⟨rfl, rfl, -⟩ : c = '\x1b' ∧ d = '[' ∧ _ := by simpa using h
        exact hfront ⟨later, rfl⟩
    rw [afterControl?_eq_none hfront, afterControl?_eq_none hfront', Option.map_none]

/-- **Lines are printed one by one.** -/
theorem withoutControls_append_line (cs ds : List Char) :
    withoutControls (cs ++ '\n' :: ds) = withoutControls cs ++ '\n' :: withoutControls ds := by
  have happend := afterControl?_append_line cs ds
  cases hcs : afterControl? cs with
  | some after =>
    have hshorter := length_afterControl?_lt hcs
    rw [hcs, Option.map_some] at happend
    rw [withoutControls_of_some happend, withoutControls_of_some hcs]
    exact withoutControls_append_line after ds
  | none =>
    rw [hcs, Option.map_none] at happend
    match cs with
    | [] =>
      rw [List.nil_append] at happend ⊢
      rw [withoutControls_cons happend, withoutControls_nil, List.nil_append]
    | c :: rest =>
      rw [List.cons_append] at happend ⊢
      rw [withoutControls_cons happend, withoutControls_cons hcs, withoutControls_append_line,
        List.cons_append]
termination_by cs.length

theorem plain_eq_self (h : '\x1b' ∉ s.toList) : plain s = s := by
  rw [plain, withoutControls_eq_self h, String.ofList_toList]

theorem plain_append (h : '\x1b' ∉ s.toList) : plain (s ++ s') = s ++ plain s' := by
  rw [plain, plain, String.toList_append, withoutControls_append h, String.ofList_append,
    String.ofList_toList]

theorem plain_append_line (s s' : String) : plain (s ++ "\n" ++ s') = plain s ++ "\n" ++ plain s' := by
  have hlines : (s ++ "\n" ++ s').toList = s.toList ++ '\n' :: s'.toList := by simp
  rw [plain, hlines, withoutControls_append_line, String.ofList_append, String.ofList_cons]
  simp [plain, String.append_assoc]

theorem plain_append_lineEnd (s : String) : plain (s ++ "\n") = plain s ++ "\n" := by
  have hempty : plain "" = "" := plain_eq_self (by simp)
  have hline := plain_append_line s ""
  rwa [String.append_empty, hempty, String.append_empty] at hline

/-- An empty line stands between lines, too. -/
theorem plain_append_gap (s s' : String) :
    plain (s ++ "\n\n" ++ s') = plain s ++ "\n\n" ++ plain s' := by
  have hgap : ∀ t t' : String, t ++ "\n\n" ++ t' = t ++ "\n" ++ "\n" ++ t' := by
    intro t t'
    have hends : "\n\n" = "\n" ++ "\n" := rfl
    rw [hends, ← String.append_assoc]
  rw [hgap, hgap, plain_append_line, plain_append_lineEnd]

end Controls

theorem plain_of_writes {ts : List Json.Token} {text : String}
    (h : Json.Writes ts text.toList) : plain text = text := by
  have hescape : '\x1b' ∉ text.toList := fun hmem => by
    have hc := Json.isShown_or_isSpace h '\x1b' hmem
    revert hc
    decide
  exact plain_eq_self hescape

end Output

end Bibliography
