import Bibliography.Proofs.Fallible
import Bibliography.Proofs.Json.Members
import Bibliography.Proofs.Text.Numeral
import Bibliography.Record.Issued
/-!
# When the year can be told

A date part is a number, no number, or `Illegible`: a text that looks like a
number and cannot be read as one. The year of a record can be told unless the
first date part is illegible (`exists_year_iff`), and all the date parts can
unless one is that stands behind numbers alone (`exists_dateParts_iff`). The
text of a year that can be told reads back as its number
(`readIntIn_year`), which is the one that the first date part writes, or zero if
it writes none (`hasYear_iff`).
-/

namespace Bibliography

open Text (isDigitText isDecimal strip)

/-- **A date part that looks like a number and cannot be read.** -/
inductive Json.Illegible : Json → Prop
  /-- One of its digits is a typographic one. -/
  | typographic {s : String} {c : Char} :
      isDigitText (strip s.toList) → c ∈ strip s.toList → isDecimal c = false → Illegible (.str s)
  /-- It has too many digits. -/
  | tooLong {s : String} :
      isDigitText (strip s.toList) → Number.maxDigits < (strip s.toList).length → Illegible (.str s)

/-- **The number that a date part writes**: it is that integer, or a text of its
digits, with blanks around them or not. -/
inductive Json.WritesNumber : Json → Int → Prop
  | int (n : Int) : WritesNumber (.int n) n
  | digits {s : String} :
      strip s.toList ≠ [] → (∀ c ∈ strip s.toList, isDecimal c = true) →
      WritesNumber (.str s) (Text.ofDecimals (strip s.toList))

/-- A value that, if it is an integer, has a numeral. -/
def Json.Writable (j : Json) : Prop :=
  ∀ n, j = .int n → (Number.decimalDigits n.natAbs).length ≤ Number.maxDigits

section Parts

variable {j : Json} {parts : List Json} {s : String} {n : Int} {o : Option Int}

theorem illegible_str_iff :
    (Json.str s).Illegible ↔ isDigitText (strip s.toList) ∧
      ¬ ((strip s.toList).length ≤ Number.maxDigits ∧ ∀ c ∈ strip s.toList, isDecimal c = true) := by
  constructor
  · intro h
    cases h with
    | typographic htext hmem hc => exact ⟨htext, fun h => by simp [h.2 _ hmem] at hc⟩
    | tooLong htext hlength => exact ⟨htext, fun h => by omega⟩
  · rintro ⟨htext, h⟩
    by_cases hlength : (strip s.toList).length ≤ Number.maxDigits
    · have hall : ¬ ∀ c ∈ strip s.toList, isDecimal c = true := fun hall => h ⟨hlength, hall⟩
      simp only [Classical.not_forall, Bool.not_eq_true] at hall
      obtain ⟨c, hmem, hc⟩ := hall
      exact .typographic htext hmem hc
    · exact .tooLong htext (by omega)

/-- The number of a text of digits is what the digits write. -/
theorem datePart?_str (htext : isDigitText (strip s.toList) = true) {o : Option Int} :
    (Json.str s).datePart? = .ok o ↔
      ∃ m : Nat, Text.readDigitText (strip s.toList) = .ok m ∧ o = some (m : Int) := by
  simp only [Json.datePart?, htext, if_true]
  cases Text.readDigitText (strip s.toList) with
  | error e => simp [Except.map, bind, Except.bind]
  | ok m => simp [Except.map, bind, Except.bind, pure, Except.pure, eq_comm]

/-- **A date part is read unless it is illegible.** -/
theorem exists_datePart?_iff : (∃ o, j.datePart? = .ok o) ↔ ¬ j.Illegible := by
  cases j with
  | str s =>
    rw [illegible_str_iff]
    by_cases htext : isDigitText (strip s.toList) = true
    · simp only [datePart?_str htext, htext, true_and, Classical.not_not]
      constructor
      · rintro ⟨_, m, hm, -⟩
        obtain ⟨hlength, hall, -⟩ := Text.readDigitText_eq_ok_iff.1 hm
        exact ⟨hlength, hall⟩
      · rintro ⟨hlength, hall⟩
        exact ⟨_, _, Text.readDigitText_eq_ok_iff.2 ⟨hlength, hall, rfl⟩, rfl⟩
    · simp [Json.datePart?, htext]
  | null | bool _ | int _ | real _ | arr _ | obj _ =>
    exact ⟨fun _ h => (nomatch h), fun _ => ⟨_, rfl⟩⟩

/-- Decimal digits are digits in the wide sense. -/
theorem isDigitText_of_decimal (hne : strip s.toList ≠ [])
    (hall : ∀ c ∈ strip s.toList, isDecimal c = true) : isDigitText (strip s.toList) = true := by
  have hlike : ∀ c ∈ strip s.toList, Text.isDigitLike c = true := fun c hc => by
    have hdecimal : (Text.digitValue? c).isSome = true := hall c hc
    rw [Text.isDigitLike, hdecimal, Bool.true_or]
  simpa [isDigitText, hne] using hlike

/-- A date part that is read gives the number that it writes. -/
theorem writesNumber_iff (h : j.datePart? = .ok o) : j.WritesNumber n ↔ o = some n := by
  cases j with
  | int m =>
    obtain rfl := Except.ok.inj h
    rw [Option.some.injEq]
    constructor
    · rintro ⟨⟩
      rfl
    · rintro rfl
      exact .int m
  | str s =>
    by_cases htext : isDigitText (strip s.toList) = true
    · obtain ⟨m, hm, rfl⟩ := (datePart?_str htext).1 h
      obtain ⟨-, hall, rfl⟩ := Text.readDigitText_eq_ok_iff.1 hm
      have hne : strip s.toList ≠ [] := by
        rintro hnil
        simp [isDigitText, hnil] at htext
      rw [Option.some.injEq]
      constructor
      · rintro ⟨⟩
        rfl
      · rintro rfl
        exact .digits hne hall
    · obtain rfl : o = none := by simpa [Json.datePart?, htext, eq_comm] using h
      constructor
      · rintro ⟨⟩
        next hne hall => exact absurd (isDigitText_of_decimal hne hall) htext
      · exact fun hsome => nomatch hsome
  | null | bool _ | real _ | arr _ | obj _ =>
    obtain rfl := Except.ok.inj h
    exact ⟨fun hwrites => (nomatch hwrites), fun hsome => (nomatch hsome)⟩

/-- A number that a date part gives has a numeral. -/
theorem writable_of_datePart? (h : j.Writable) (hn : j.datePart? = .ok (some n)) :
    (Number.decimalDigits n.natAbs).length ≤ Number.maxDigits := by
  cases j with
  | int m =>
    cases hn
    exact h _ rfl
  | str s =>
    by_cases htext : isDigitText (strip s.toList) = true
    · obtain ⟨m, hm, heq⟩ := (datePart?_str htext).1 hn
      cases heq
      obtain ⟨hlength, hall, rfl⟩ := Text.readDigitText_eq_ok_iff.1 hm
      have hpos : 0 < (strip s.toList).length := by
        simp only [isDigitText, Bool.and_eq_true, Bool.not_eq_true', List.isEmpty_eq_false_iff] at htext
        exact List.length_pos_iff.2 htext.1
      exact Nat.le_trans ((Nat.length_toDigits_le_iff (by decide) hpos).2 Text.ofDecimals_lt) hlength
    · simp [Json.datePart?, htext] at hn
  | null | bool _ | real _ | arr _ | obj _ => cases hn

end Parts

/-! ## The year -/

namespace Record

section Year

variable {r : Record} {n : Int} {y : String}

/-- The text of a year that is a number: its numeral, and another text for zero. -/
theorem year_of_yearNumber (h : ∀ part ∈ r.rawDateParts.head?, part.Writable)
    (hn : r.yearNumber = .ok n) :
    r.year = .ok (if n = 0 then missingYear else Number.intText n) := by
  rw [year, hn, Except.bind]
  by_cases hzero : n = 0
  · rw [if_pos hzero, if_pos hzero]
  · have hlength : (Number.decimalDigits n.natAbs).length ≤ Number.maxDigits := by
      unfold yearNumber at hn
      split at hn
      · next part rest hparts =>
        obtain ⟨o, ho, rfl⟩ := map_eq_ok_iff.1 hn
        cases o with
        | none => exact absurd rfl hzero
        | some n => exact writable_of_datePart? (h part (by simp [hparts])) ho
      · cases hn
        exact absurd rfl hzero
    rw [if_neg hzero, if_neg hzero, writeInt, if_neg (Nat.not_lt.2 hlength)]

/-- **The year can be told unless the first date part is illegible**, where a
year that is an integer has a numeral. -/
theorem exists_year_iff (h : ∀ part ∈ r.rawDateParts.head?, part.Writable) :
    (∃ y, r.year = .ok y) ↔ ∀ part ∈ r.rawDateParts.head?, ¬ part.Illegible := by
  have hnumber : (∃ n, r.yearNumber = .ok n) ↔
      ∀ part ∈ r.rawDateParts.head?, ¬ part.Illegible := by
    unfold yearNumber
    cases r.rawDateParts with
    | nil => simp
    | cons part rest => simp [map_eq_ok_iff, ← exists_datePart?_iff]
  rw [← hnumber]
  constructor
  · rintro ⟨y, hy⟩
    obtain ⟨n, hn, -⟩ := bind_eq_ok_iff.1 hy
    exact ⟨n, hn⟩
  · rintro ⟨n, hn⟩
    exact ⟨_, year_of_yearNumber h hn⟩

/-- **The text of a year reads back as its number.** -/
theorem readIntIn_year (h : r.year = .ok y) :
    ∃ n, r.yearNumber = .ok n ∧ Text.readIntIn 10 y.toList = .ok n := by
  obtain ⟨n, hn, hy⟩ := bind_eq_ok_iff.1 h
  refine ⟨n, hn, ?_⟩
  split at hy
  · next hzero =>
    cases hy
    rw [hzero]
    rfl
  · exact Text.readIntIn_writeInt hy

/-- The year that stands for an unknown one is told of no number but zero. -/
theorem year_eq_missingYear_iff (h : r.year = .ok y) (hn : r.yearNumber = .ok n) :
    y = missingYear ↔ n = 0 := by
  constructor
  · rintro rfl
    obtain ⟨m, hm, hread⟩ := readIntIn_year h
    have hzero : Text.readIntIn 10 missingYear.toList = .ok 0 := rfl
    obtain rfl : n = m := Except.ok.inj (hn.symm.trans hm)
    exact Except.ok.inj (hread.symm.trans hzero)
  · rintro rfl
    rw [year, hn, Except.bind, if_pos rfl] at h
    exact (Except.ok.inj h).symm

/-- **The year that a record has**: a number other than zero that the first date part
writes. -/
def HasYear (r : Record) (n : Int) : Prop :=
  n ≠ 0 ∧ ∃ issued part parts dates, r.get? "issued" = some (.obj issued) ∧
    Json.Members.get? "date-parts" issued = some (.arr (.arr (part :: parts) :: dates)) ∧
    part.WritesNumber n

theorem rawDateParts_eq_cons_iff {part : Json} {parts : List Json} :
    r.rawDateParts = part :: parts ↔
      ∃ issued dates, r.get? "issued" = some (.obj issued) ∧
        Json.Members.get? "date-parts" issued = some (.arr (.arr (part :: parts) :: dates)) := by
  have hdates (dates : List Json) :
      ((r.get? "issued").bind (Json.get? "date-parts")).bind Json.arr? = some dates ↔
        ∃ issued, r.get? "issued" = some (.obj issued) ∧
          Json.Members.get? "date-parts" issued = some (.arr dates) := by
    simp [Option.bind_eq_some_iff, Json.get?_eq_some_iff, Json.arr?_eq_some_iff]
  unfold rawDateParts
  constructor
  · intro h
    split at h
    · next dates heq =>
      obtain rfl := h
      obtain ⟨issued, hissued, hget⟩ := (hdates _).1 heq
      exact ⟨issued, dates, hissued, hget⟩
    · cases h
  · rintro ⟨issued, dates, hissued, hget⟩
    rw [(hdates _).2 ⟨issued, hissued, hget⟩]

/-- A record has the year that is told of it, unless that is zero. -/
theorem hasYear_iff {m : Int} (h : r.yearNumber = .ok m) : r.HasYear n ↔ n ≠ 0 ∧ m = n := by
  refine and_congr_right fun hn => ?_
  have hparts : (∃ issued part parts dates, r.get? "issued" = some (.obj issued) ∧
      Json.Members.get? "date-parts" issued = some (.arr (.arr (part :: parts) :: dates)) ∧
      part.WritesNumber n) ↔
        ∃ part parts, r.rawDateParts = part :: parts ∧ part.WritesNumber n := by
    simp only [rawDateParts_eq_cons_iff]
    constructor
    · rintro ⟨issued, part, parts, dates, hissued, hdates, hwrites⟩
      exact ⟨part, parts, ⟨issued, dates, hissued, hdates⟩, hwrites⟩
    · rintro ⟨part, parts, ⟨issued, dates, hissued, hdates⟩, hwrites⟩
      exact ⟨issued, part, parts, dates, hissued, hdates, hwrites⟩
  rw [hparts]
  unfold yearNumber at h
  cases hraw : r.rawDateParts with
  | nil =>
    rw [hraw] at h
    obtain rfl := Except.ok.inj h
    simpa using hn.symm
  | cons part parts =>
    rw [hraw] at h
    obtain ⟨o, ho, rfl⟩ := map_eq_ok_iff.1 h
    have hwrites : part.WritesNumber n ↔ o.getD 0 = n := by
      rw [writesNumber_iff ho]
      cases o with
      | none => simpa using hn.symm
      | some k => simp
    simpa using hwrites

end Year

/-! ## All date parts -/

/-- An illegible part that stands behind numbers alone. -/
def MeetsIllegible (parts : List Json) : Prop :=
  ∃ before part after, parts = before ++ part :: after ∧
    (∀ p ∈ before, ∃ n, p.datePart? = .ok (some n)) ∧ part.Illegible

section DateParts

variable {part : Json} {parts : List Json} {r : Record}

theorem meetsIllegible_cons :
    MeetsIllegible (part :: parts) ↔
      part.Illegible ∨ (∃ n, part.datePart? = .ok (some n)) ∧ MeetsIllegible parts := by
  constructor
  · rintro ⟨before, bad, after, hsplit, hbefore, hbad⟩
    cases before with
    | nil => exact .inl ((List.cons.inj hsplit).1 ▸ hbad)
    | cons first before =>
      obtain ⟨rfl, rfl⟩ := List.cons.inj hsplit
      obtain ⟨hfirst, hbefore⟩ := List.forall_mem_cons.1 hbefore
      exact .inr ⟨hfirst, before, bad, after, rfl, hbefore, hbad⟩
  · rintro (hpart | ⟨hpart, before, bad, after, rfl, hbefore, hbad⟩)
    · exact ⟨[], part, parts, rfl, by simp, hpart⟩
    · exact ⟨part :: before, bad, after, rfl, List.forall_mem_cons.2 ⟨hpart, hbefore⟩, hbad⟩

theorem exists_leadingParts_iff :
    (∃ ns, leadingParts parts = .ok ns) ↔ ¬ MeetsIllegible parts := by
  induction parts with
  | nil => simp [leadingParts, MeetsIllegible]
  | cons part parts ih =>
    rw [meetsIllegible_cons, not_or, ← exists_datePart?_iff, not_and, ← ih, leadingParts]
    cases hpart : part.datePart? with
    | error e => simp [bind, Except.bind]
    | ok o =>
      cases o with
      | none => simp [bind, Except.bind, pure, Except.pure]
      | some n => cases leadingParts parts <;> simp [bind, Except.bind, pure, Except.pure]

/-- **All date parts can be told unless an illegible one is met** before any
that is no number. -/
theorem exists_dateParts_iff :
    (∃ ns, r.dateParts = .ok ns) ↔ ¬ MeetsIllegible r.rawDateParts :=
  exists_leadingParts_iff

/-- **The first of all date parts is the year**, where they can be told. -/
theorem yearNumber_of_dateParts {ns : List Int} (h : r.dateParts = .ok ns) :
    r.yearNumber = .ok (ns.headD 0) := by
  unfold dateParts at h
  unfold yearNumber
  cases hparts : r.rawDateParts with
  | nil =>
    rw [hparts, leadingParts] at h
    cases h
    rfl
  | cons part rest =>
    rw [hparts, leadingParts, bind_eq_ok_iff] at h
    obtain ⟨o, ho, h⟩ := h
    dsimp only
    rw [ho]
    cases o with
    | none =>
      cases h
      rfl
    | some n =>
      obtain ⟨ms, -, h⟩ := bind_eq_ok_iff.1 h
      cases h
      rfl

end DateParts

end Record

end Bibliography
