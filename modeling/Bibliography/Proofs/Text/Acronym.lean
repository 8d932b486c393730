import Bibliography.Text.Acronym
import Mathlib.Data.List.TakeWhile
/-!
# Acronyms as runs of capitals

The acronyms of a text are its longest runs of capitals, single letters left out. A run is
told by what stands at its positions (`IsRun`), so two runs that share a position are the
same (`IsRun.eq_of_mem`). Reading from left to right passes over a position only where no
two capitals meet (`RunsFrom`), and never starts between two, so what it takes is not the
rest of a longer run (`isRun_takeWhile`).
-/

namespace Bibliography.Text

/-- One of the letters from A to Z stands at position `i`. -/
def CapitalAt (cs : List Char) (i : Nat) : Prop :=
  ∃ c, cs[i]? = some c ∧ 'A' ≤ c ∧ c ≤ 'Z'

/-- Two of them stand side by side from position `i` on. -/
def CapitalsAt (cs : List Char) (i : Nat) : Prop :=
  CapitalAt cs i ∧ CapitalAt cs (i + 1)

/-- Position `i` is one of two or more capitals in a row: it has a neighbour on this or that
side. -/
def IsAmongCapitals (cs : List Char) (i : Nat) : Prop :=
  ∃ j, j ≤ i ∧ i ≤ j + 1 ∧ CapitalsAt cs j

/-- **A longest run of capitals**, of two letters at least: what stands at its place, with
no capital right before it or right behind. -/
structure IsRun (cs : List Char) (a : Acronym) : Prop where
  text_eq : a.text = cs.extract a.start a.stop
  stop_le : a.stop ≤ cs.length
  two_le : 2 ≤ a.text.length
  capital : ∀ c ∈ a.text, 'A' ≤ c ∧ c ≤ 'Z'
  not_before : ∀ i, i + 1 = a.start → ¬ CapitalAt cs i
  not_behind : ¬ CapitalAt cs a.stop

/-- **All the runs of a text, from left to right**, with something between any two. -/
structure AreRuns (cs : List Char) (runs : List Acronym) : Prop where
  apart : runs.Pairwise fun a b => a.start < a.stop ∧ a.stop < b.start
  mem_iff : ∀ a, a ∈ runs ↔ IsRun cs a
  existsUnique_iff : ∀ i,
    (∃! a, a ∈ runs ∧ a.start ≤ i ∧ i < a.stop) ↔ IsAmongCapitals cs i

section Runs

variable {cs text : List Char} {a b : Acronym} {i : Nat}

theorem isCapital_iff {c : Char} : isCapital c = true ↔ 'A' ≤ c ∧ c ≤ 'Z' := by
  simp [isCapital]

/-- A position of what is left of a text is one of the text. -/
theorem capitalAt_drop (k : Nat) : CapitalAt (cs.drop i) k ↔ CapitalAt cs (i + k) := by
  simp only [CapitalAt, List.getElem?_drop]

/-! ## One run -/

theorem IsRun.start_add_two_le (h : IsRun cs a) : a.start + 2 ≤ a.stop := by
  have htwo := h.two_le
  have hlength := congrArg List.length h.text_eq
  simp only [List.extract_eq_take_drop, List.length_take, List.length_drop] at hlength
  omega

/-- Every position of a run holds a capital. -/
theorem IsRun.capitalAt (h : IsRun cs a) (hstart : a.start ≤ i) (hstop : i < a.stop) :
    CapitalAt cs i := by
  have hlt : i < cs.length := Nat.lt_of_lt_of_le hstop h.stop_le
  have hmem : cs[i] ∈ a.text := by
    have hget : a.text[i - a.start]? = some cs[i] := by
      rw [h.text_eq, List.extract_eq_take_drop, List.getElem?_take_of_lt (by omega),
        List.getElem?_drop, Nat.add_sub_cancel' hstart, List.getElem?_eq_getElem hlt]
    exact List.mem_of_getElem? hget
  exact ⟨cs[i], List.getElem?_eq_getElem hlt, h.capital _ hmem⟩

theorem IsRun.capitalsAt (h : IsRun cs a) : CapitalsAt cs a.start := by
  have htwo := h.start_add_two_le
  exact ⟨h.capitalAt (by omega) (by omega), h.capitalAt (by omega) (by omega)⟩

theorem IsRun.isAmongCapitals (h : IsRun cs a) (hstart : a.start ≤ i) (hstop : i < a.stop) :
    IsAmongCapitals cs i := by
  have htwo := h.start_add_two_le
  rcases Nat.lt_or_ge (i + 1) a.stop with hlt | hge
  · exact ⟨i, by omega, by omega, h.capitalAt hstart hstop, h.capitalAt (by omega) hlt⟩
  · -- the last position of a run has its neighbour before it
    refine ⟨i - 1, by omega, by omega, h.capitalAt (by omega) (by omega), ?_⟩
    exact h.capitalAt (by omega) (by omega)

/-- A run that shares a position with another reaches at least as far, to both sides. -/
theorem IsRun.le_of_mem (ha : IsRun cs a) (hb : IsRun cs b) (hastart : a.start ≤ i)
    (hastop : i < a.stop) (hbstart : b.start ≤ i) (hbstop : i < b.stop) :
    a.start ≤ b.start ∧ b.stop ≤ a.stop := by
  constructor
  · by_contra hlt
    have hcapital : CapitalAt cs (a.start - 1) := hb.capitalAt (by omega) (by omega)
    exact ha.not_before _ (by omega) hcapital
  · by_contra hlt
    have hcapital : CapitalAt cs a.stop := hb.capitalAt (by omega) (by omega)
    exact ha.not_behind hcapital

/-- **Runs that share a position are the same.** -/
theorem IsRun.eq_of_mem (ha : IsRun cs a) (hb : IsRun cs b) (hastart : a.start ≤ i)
    (hastop : i < a.stop) (hbstart : b.start ≤ i) (hbstop : i < b.stop) : a = b := by
  obtain ⟨hstart, hstop⟩ := ha.le_of_mem hb hastart hastop hbstart hbstop
  obtain ⟨hstart', hstop'⟩ := hb.le_of_mem ha hbstart hbstop hastart hastop
  have hstarts : a.start = b.start := by omega
  have hstops : a.stop = b.stop := by omega
  have htexts : a.text = b.text := by rw [ha.text_eq, hb.text_eq, hstarts, hstops]
  cases a
  cases b
  simp_all

/-! ## One run after the other -/

/-- The runs of a text from position `i` on. All that lies before, between and behind them
is passed over, for no two capitals meet in it. -/
inductive RunsFrom (cs : List Char) : Nat → List Acronym → Prop
  | done {i : Nat} : (∀ j, i ≤ j → ¬ CapitalsAt cs j) → RunsFrom cs i []
  | next {i : Nat} {a : Acronym} {runs : List Acronym} :
      i ≤ a.start → (∀ j, i ≤ j → j < a.start → ¬ CapitalsAt cs j) → IsRun cs a →
      RunsFrom cs a.stop runs → RunsFrom cs i (a :: runs)

variable {runs : List Acronym}

/-- Where no two capitals meet, the runs are those from the next position on. -/
theorem RunsFrom.skip (hbare : ¬ CapitalsAt cs i) (h : RunsFrom cs (i + 1) runs) :
    RunsFrom cs i runs := by
  have hpassed : ∀ j, i ≤ j → (i + 1 ≤ j → ¬ CapitalsAt cs j) → ¬ CapitalsAt cs j := by
    intro j hj hlater
    rcases Nat.eq_or_lt_of_le hj with rfl | hlt
    · exact hbare
    · exact hlater hlt
  cases h with
  | done hnone => exact .done fun j hj => hpassed j hj (hnone j)
  | next hle hnone hrun hrest =>
    refine .next (by omega) (fun j hj hlt => hpassed j hj fun hj' => hnone j hj' hlt) hrun hrest

theorem RunsFrom.isRun (h : RunsFrom cs i runs) : ∀ a ∈ runs, IsRun cs a ∧ i ≤ a.start := by
  induction h with
  | done => exact nofun
  | next hle _ hrun _ ih =>
    refine List.forall_mem_cons.2 ⟨⟨hrun, hle⟩, fun b hb => ?_⟩
    have htwo := hrun.start_add_two_le
    obtain ⟨hb, hlater⟩ := ih b hb
    exact ⟨hb, by omega⟩

/-- No run starts right where another ends. -/
theorem RunsFrom.pairwise (h : RunsFrom cs i runs) :
    runs.Pairwise fun a b => a.start < a.stop ∧ a.stop < b.start := by
  induction h with
  | done => exact .nil
  | @next i a runs _ _ hrun hrest ih =>
    refine List.pairwise_cons.2 ⟨fun b hb => ?_, ih⟩
    have htwo := hrun.start_add_two_le
    obtain ⟨hb, hle⟩ := hrest.isRun b hb
    have hne : a.stop ≠ b.start := by
      intro heq
      exact hrun.not_behind (heq ▸ hb.capitalsAt.1)
    omega

/-- **Where two capitals meet, both are in one run.** -/
theorem RunsFrom.exists_of_capitalsAt (h : RunsFrom cs i runs) {j : Nat} (hj : i ≤ j)
    (hcapitals : CapitalsAt cs j) : ∃ a ∈ runs, a.start ≤ j ∧ j + 1 < a.stop := by
  induction h with
  | done hnone => exact absurd hcapitals (hnone j hj)
  | @next i a runs _ hnone hrun _ ih =>
    rcases Nat.lt_or_ge j a.start with hlt | hstart
    · exact absurd hcapitals (hnone j hj hlt)
    rcases Nat.lt_or_ge j a.stop with hlt | hstop
    · -- the second of them cannot be right behind the run
      have hne : j + 1 ≠ a.stop := by
        intro heq
        exact hrun.not_behind (heq ▸ hcapitals.2)
      exact ⟨a, List.mem_cons_self, hstart, by omega⟩
    · obtain ⟨b, hb, hplace⟩ := ih hstop
      exact ⟨b, List.mem_cons_of_mem _ hb, hplace⟩

/-! ## Reading from left to right -/

/-- Capitals in front of a text are taken, as far as they go. -/
theorem capitalAt_of_lt_length_takeWhile (h : i < (cs.takeWhile isCapital).length) :
    CapitalAt cs i := by
  have htaken := List.prefix_iff_getElem?.1 (List.takeWhile_prefix isCapital (l := cs)) i h
  exact ⟨_, htaken, isCapital_iff.1 (List.mem_takeWhile_imp (List.getElem_mem h))⟩

theorem not_capitalAt_length_takeWhile : ¬ CapitalAt cs (cs.takeWhile isCapital).length := by
  induction cs with
  | nil => simp [CapitalAt]
  | cons c rest ih =>
    by_cases hc : isCapital c = true
    · rw [List.takeWhile_cons_of_pos hc]
      exact ih
    · rw [List.takeWhile_cons_of_neg hc]
      rintro ⟨d, hd, hcapital⟩
      obtain rfl : c = d := by simpa using hd
      exact hc (isCapital_iff.2 hcapital)

/-- Two capitals in front of a text are taken together. -/
theorem two_le_length_takeWhile (h : CapitalsAt cs 0) : 2 ≤ (cs.takeWhile isCapital).length := by
  by_contra hfew
  have hend : (cs.takeWhile isCapital).length = 0 ∨ (cs.takeWhile isCapital).length = 1 := by
    omega
  have hnot : ¬ CapitalAt cs (cs.takeWhile isCapital).length := not_capitalAt_length_takeWhile
  rcases hend with hend | hend
  · rw [hend] at hnot
    exact hnot h.1
  · rw [hend] at hnot
    exact hnot h.2

/-- **What is taken is a run**, where no two capitals meet at the position before. -/
theorem isRun_takeWhile (hcs : text.drop i = cs) (hbefore : ∀ j, j + 1 = i → ¬ CapitalsAt text j)
    (htwo : 2 ≤ (cs.takeWhile isCapital).length) :
    IsRun text ⟨cs.takeWhile isCapital, i, i + (cs.takeWhile isCapital).length⟩ := by
  have hprefix := List.takeWhile_prefix isCapital (l := cs)
  have hlength : (cs.takeWhile isCapital).length ≤ text.length - i := by
    rw [← List.length_drop, hcs]
    exact hprefix.length_le
  have hcapital : ∀ c ∈ cs.takeWhile isCapital, 'A' ≤ c ∧ c ≤ 'Z' := fun c hc =>
    isCapital_iff.1 (List.mem_takeWhile_imp hc)
  refine ⟨?_, by simp only; omega, htwo, hcapital, fun j hj hbare => ?_, fun hbehind => ?_⟩
  · simp only [List.extract_eq_take_drop, hcs, Nat.add_sub_cancel_left]
    exact List.prefix_iff_eq_take.1 hprefix
  · have hfront : CapitalAt (text.drop i) 0 := by
      rw [hcs]
      exact capitalAt_of_lt_length_takeWhile (Nat.zero_lt_of_lt htwo)
    exact hbefore j hj ⟨hbare, hj ▸ (capitalAt_drop 0).1 hfront⟩
  · rw [← capitalAt_drop, hcs] at hbehind
    exact not_capitalAt_length_takeWhile hbehind

/-- **Reading finds the runs.** The induction is that of the reading, at all positions of one
text; it may start anywhere but between two capitals. -/
theorem runsFrom_acronymsFrom (hcs : text.drop i = cs)
    (hbefore : ∀ j, j + 1 = i → ¬ CapitalsAt text j) :
    RunsFrom text i (acronymsFrom i cs) := by
  induction i, cs using acronymsFrom.induct with
  | case1 i =>
    rw [acronymsFrom]
    refine .done fun j hj hcapitals => ?_
    obtain ⟨c, hc, -⟩ := hcapitals.1
    have hlt := (List.getElem?_eq_some_iff.1 hc).1
    have hle := List.drop_eq_nil_iff.1 hcs
    omega
  | case2 i c rest run htwo ih =>
    rw [acronymsFrom, dif_pos htwo]
    have hrun := isRun_takeWhile hcs hbefore htwo
    refine .next (Nat.le_refl i) (fun j hj hlt => ?_) hrun (ih ?_ fun j hj hcapitals => ?_)
    · exact absurd hj (Nat.not_le_of_lt hlt)
    · rw [← hcs, List.drop_drop]
    · exact hrun.not_behind (hj ▸ hcapitals.2)
  | case3 i c rest run hfew ih =>
    rw [acronymsFrom, dif_neg hfew]
    have hbare : ¬ CapitalsAt text i := by
      intro hcapitals
      refine hfew (two_le_length_takeWhile ?_)
      rw [← hcs]
      exact ⟨(capitalAt_drop 0).2 hcapitals.1, (capitalAt_drop 1).2 hcapitals.2⟩
    refine (ih ?_ fun j hj => ?_).skip hbare
    · rw [← List.drop_drop, hcs]
      rfl
    · obtain rfl : j = i := by omega
      exact hbare

theorem runsFrom_acronyms (cs : List Char) : RunsFrom cs 0 (acronyms cs) :=
  runsFrom_acronymsFrom rfl nofun

/-- **Every run is found**: the two capitals that it starts with are in one that is, and that
one is the run itself. -/
theorem mem_acronyms_iff : a ∈ acronyms cs ↔ IsRun cs a := by
  constructor
  · exact fun ha => ((runsFrom_acronyms cs).isRun a ha).1
  · intro ha
    have htwo := ha.start_add_two_le
    obtain ⟨b, hb, hstart, hstop⟩ :=
      (runsFrom_acronyms cs).exists_of_capitalsAt (Nat.zero_le _) ha.capitalsAt
    have hrun : IsRun cs b := ((runsFrom_acronyms cs).isRun b hb).1
    rwa [ha.eq_of_mem hrun (Nat.le_refl _) (by omega) hstart (by omega)]

/-- Each of two or more capitals in a row is in a run. -/
theorem exists_mem_acronyms (h : IsAmongCapitals cs i) :
    ∃ a ∈ acronyms cs, a.start ≤ i ∧ i < a.stop := by
  obtain ⟨j, hle, hge, hcapitals⟩ := h
  obtain ⟨a, ha, hstart, hstop⟩ :=
    (runsFrom_acronyms cs).exists_of_capitalsAt (Nat.zero_le _) hcapitals
  exact ⟨a, ha, by omega, by omega⟩

theorem hasAcronym_iff : hasAcronym cs = true ↔ ∃ i, CapitalsAt cs i := by
  induction cs with
  | nil => simp [hasAcronym, CapitalsAt, CapitalAt]
  | cons c rest ih =>
    have hshift : ∀ i, CapitalsAt (c :: rest) (i + 1) ↔ CapitalsAt rest i := fun i => Iff.rfl
    have hfirst : CapitalsAt (c :: rest) 0 ↔
        (isCapital c && rest.head?.any isCapital) = true := by
      cases rest <;> simp [CapitalsAt, CapitalAt, isCapital_iff]
    rw [hasAcronym, Bool.or_eq_true, ih, ← hfirst]
    simp only [← hshift]
    exact Nat.or_exists_add_one

/-- **The acronyms of a text are its runs of capitals.** They are all of them and stand one
after the other, so that each of two or more capitals in a row is in exactly one. And a text
has an acronym just if it has any. -/
theorem areRuns_acronyms (cs : List Char) :
    AreRuns cs (acronyms cs) ∧ (hasAcronym cs = true ↔ acronyms cs ≠ []) := by
  refine ⟨⟨(runsFrom_acronyms cs).pairwise, fun a => mem_acronyms_iff, fun i => ?_⟩, ?_⟩
  · constructor
    · rintro ⟨a, ⟨ha, hstart, hstop⟩, -⟩
      exact (mem_acronyms_iff.1 ha).isAmongCapitals hstart hstop
    · intro hamong
      obtain ⟨a, ha, hstart, hstop⟩ := exists_mem_acronyms hamong
      refine ⟨a, ⟨ha, hstart, hstop⟩, fun b ⟨hb, hstart', hstop'⟩ => ?_⟩
      exact (mem_acronyms_iff.1 hb).eq_of_mem (mem_acronyms_iff.1 ha) hstart' hstop' hstart hstop
  · rw [hasAcronym_iff]
    constructor
    · rintro ⟨i, hcapitals⟩
      obtain ⟨a, ha, -⟩ := exists_mem_acronyms ⟨i, Nat.le_refl i, Nat.le_succ i, hcapitals⟩
      exact List.ne_nil_of_mem ha
    · intro hne
      obtain ⟨a, ha⟩ := List.exists_mem_of_ne_nil _ hne
      exact ⟨a.start, (mem_acronyms_iff.1 ha).capitalsAt⟩

example : acronyms "mRNA and DNA".toList = [⟨"RNA".toList, 1, 4⟩, ⟨"DNA".toList, 9, 12⟩] := by
  cbv

end Runs

end Bibliography.Text
