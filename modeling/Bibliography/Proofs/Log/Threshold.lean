import Bibliography.Proofs.Log.File
/-!
# The threshold that a name stands for

A log is set up with the name of a threshold. Eight names stand for one, in upper or
lower case (`standardThresholds`), two are reserved for other settings of a log, and
all others are unknown and stand for that of information (`standing`). A log without a
file is set up just when the name is not reserved; for a reserved name it is left
without any outlet (`exists_configure_iff_of_unfiled`).
-/

namespace Bibliography.Log

open Access

/-- The names of thresholds, in capital letters. -/
def standardThresholds : List (String × Nat) :=
  [("CRITICAL", 50), ("FATAL", 50), ("ERROR", 40), ("WARNING", 30), ("WARN", 30), ("INFO", 20),
    ("DEBUG", 10), ("NOTSET", 0)]

/-- **The threshold that a name stands for**: the standard one of that name, in upper or
lower case, or else that of information. -/
def standing (name : Option String) : Nat :=
  ((name.map uppered).bind fun upper => standardThresholds.lookup upper).getD Level.info.number

/-- A name that is reserved for another setting, in upper or lower case. -/
def IsReserved (name : Option String) : Prop :=
  ∃ r : ReservedName, name.map uppered = some r.name

section Names

variable {name : Option String} {upper s : String} {least : Nat} {r : ReservedName}

/-- The names of levels are names of thresholds. -/
theorem name_mem_standardThresholds (level : Level) :
    (level.name, level.number) ∈ standardThresholds ∧
      ∀ second ∈ level.alias?, (second, level.number) ∈ standardThresholds := by
  cases level <;> decide

/-- So a name that is none of a threshold is none of a level. -/
theorem find?_eq_none_of_ne (h : ∀ p ∈ standardThresholds, upper ≠ p.1) :
    (Level.all.find? fun l => l.name == upper || l.alias? == some upper) = none := by
  refine List.find?_eq_none.2 fun level _ hnamed => ?_
  obtain ⟨hname, hsecond⟩ := name_mem_standardThresholds level
  rw [Bool.or_eq_true, beq_iff_eq, beq_iff_eq] at hnamed
  rcases hnamed with rfl | halias
  · exact h _ hname rfl
  · exact h _ (hsecond upper halias) rfl

theorem threshold_some :
    threshold (some s) =
      if uppered s = ReservedName.layout.name then .error .layout
      else if uppered s = ReservedName.styles.name then .error .styles
      else .ok (standing (some s)) := by
  rw [threshold, standing, Option.getD_some, Option.map_some, Option.bind_some]
  generalize uppered s = upper
  by_cases hmem : upper ∈ standardThresholds.map (·.1)
  · simp only [standardThresholds, List.map_cons, List.map_nil, List.mem_cons, List.not_mem_nil,
      or_false] at hmem
    rcases hmem with rfl | rfl | rfl | rfl | rfl | rfl | rfl | rfl <;> rfl
  · have hne : ∀ p ∈ standardThresholds, upper ≠ p.1 := by
      rintro p hp rfl
      exact hmem (List.mem_map_of_mem hp)
    have hlookup : standardThresholds.lookup upper = none :=
      List.lookup_eq_none_iff.2 fun p hp => bne_iff_ne.2 (hne p hp)
    have hnotset : upper ≠ "NOTSET" := hne ("NOTSET", 0) (by decide)
    simp only [find?_eq_none_of_ne hne, hlookup, if_neg hnotset, Option.getD_none]

theorem threshold_eq_error_iff : threshold name = .error r ↔ name.map uppered = some r.name := by
  cases name with
  | none => exact ⟨nofun, nofun⟩
  | some s =>
    rw [threshold_some, Option.map_some, Option.some.injEq]
    constructor
    · intro h
      split at h
      · next hlayout =>
        cases h
        exact hlayout
      · split at h
        · next hstyles =>
          cases h
          exact hstyles
        · cases h
    · intro h
      rw [h]
      cases r <;> rfl

/-- **A name has a threshold unless it is reserved**, and it is the one that it stands for. -/
theorem threshold_eq_ok_iff :
    threshold name = .ok least ↔ ¬ IsReserved name ∧ least = standing name := by
  have hreserved : (∃ r, threshold name = .error r) ↔ IsReserved name :=
    exists_congr fun _ => threshold_eq_error_iff
  cases name with
  | none => exact ⟨fun h => ⟨nofun, (Except.ok.inj h).symm⟩, fun h => h.2 ▸ rfl⟩
  | some s =>
    rw [← hreserved, threshold_some]
    split
    · simp
    · split
      · simp
      · simp [eq_comm]

/-- The threshold that lets everything through has one name. -/
theorem standing_eq_zero_iff : standing name = 0 ↔ name.map uppered = some "NOTSET" := by
  have hzero : ∀ p ∈ standardThresholds, p.2 = 0 → p.1 = "NOTSET" := by decide
  constructor
  · intro h
    unfold standing at h
    cases hupper : name.map uppered with
    | none => simp [hupper, Level.number] at h
    | some upper =>
      rw [hupper, Option.bind_some] at h
      cases hlookup : standardThresholds.lookup upper with
      | none => simp [hlookup, Level.number] at h
      | some n =>
        obtain rfl : n = 0 := by simpa [hlookup] using h
        obtain ⟨before, after, hsplit, -⟩ := List.lookup_eq_some_iff.1 hlookup
        exact congrArg some (hzero (upper, 0) (by simp [hsplit]) rfl)
  · intro h
    rw [standing, h]
    rfl

end Names

section Unfiled

variable {request : LogRequest}

/-- **Without a file a log is set up unless its name is reserved.** Then its only outlet
is the terminal, from the threshold on that the name stands for, unknown names being
those of information; nothing is left of what the log was before. Only a reserved name
leaves it without outlets, and with the rest as it was. -/
theorem exists_configure_iff_of_unfiled (h : fileAction? request = none) (stamp : String)
    (log : Log) (t : Tree) :
    let outcome := (configure request stamp log).onTree t
    ((∃ path, outcome.1.1 = .ok path) ↔ ¬ IsReserved request.level) ∧
      (outcome.1.2.outlets = [] ↔ IsReserved request.level) ∧
      (¬ IsReserved request.level → outcome =
        ((.ok none, ⟨standing request.level, true, [⟨.terminal, standing request.level⟩]⟩), t)) ∧
      ∀ r : ReservedName, request.level.map uppered = some r.name →
        outcome = ((.error (.level r), ⟨log.level, log.isApart, []⟩), t) := by
  have hconfigured := configured_onTree request stamp log t
  intro outcome
  change Configured request stamp log t outcome at hconfigured
  generalize outcome = outcome at hconfigured ⊢
  cases hconfigured with
  | reserved hthreshold =>
    have hname := threshold_eq_error_iff.1 hthreshold
    have hreserved : IsReserved request.level := ⟨_, hname⟩
    refine ⟨by simp [hreserved], by simp [hreserved], fun hnot => absurd hreserved hnot, ?_⟩
    intro r hr
    cases (threshold_eq_error_iff.2 hr).symm.trans hthreshold
    rfl
  | unfiled hthreshold _ =>
    obtain ⟨hnot, rfl⟩ := threshold_eq_ok_iff.1 hthreshold
    exact ⟨by simp [hnot], by simp [hnot], fun _ => rfl, fun r hr => absurd ⟨r, hr⟩ hnot⟩
  | refused _ haction _ | filed _ haction _ => cases h.symm.trans haction

end Unfiled

/-- A log of errors that is set up for a name which nobody knows. -/
theorem exists_configure_chatty :
    fileAction? { level := some "Chatty", action := some "search" } = none ∧
      ¬ IsReserved (some "Chatty") ∧
      (configure { level := some "Chatty", action := some "search" } "0102030405"
          ⟨40, true, [⟨.terminal, 40⟩]⟩).onTree .empty =
        ((.ok none, ⟨20, true, [⟨.terminal, 20⟩]⟩), .empty) := by
  have hunfiled : fileAction? { level := some "Chatty", action := some "search" } = none := rfl
  have hnot : ¬ IsReserved (some "Chatty") := by
    rintro ⟨r, hr⟩
    revert hr
    cases r <;> decide +kernel
  obtain ⟨-, -, houtcome, -⟩ := exists_configure_iff_of_unfiled hunfiled "0102030405"
    ⟨40, true, [⟨.terminal, 40⟩]⟩ .empty
  have hstanding : standing (some "Chatty") = 20 := by decide +kernel
  rw [hstanding] at houtcome
  exact ⟨hunfiled, hnot, houtcome hnot⟩

/-- The name of a layout is no name of a threshold, and yet no unknown one: the log of errors
that is set up for it is left without outlets. -/
theorem configure_basicFormat :
    standardThresholds.lookup (uppered "basic_format") = none ∧
      standing (some "basic_format") = Level.info.number ∧
      ((configure { level := some "basic_format" } "0102030405"
        ⟨40, true, [⟨.terminal, 40⟩]⟩).onTree .empty).1 =
          (.error (.level .layout), ⟨40, true, []⟩) := by
  have hupper : uppered "basic_format" = ReservedName.layout.name := by decide +kernel
  refine ⟨?_, ?_, rfl⟩
  · rw [hupper]
    rfl
  · rw [standing, Option.map_some, hupper]
    rfl

end Bibliography.Log
