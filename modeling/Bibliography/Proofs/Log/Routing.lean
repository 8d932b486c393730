import Bibliography.Proofs.Log.Threshold
import Mathlib.Control.Monad.Basic
/-!
# Where messages go

A message passes the threshold of the log before it comes to those of its outlets. The
first is set so low that it keeps nothing back which an outlet would let through
(`isEnabled_and_iff`), but for one name: the threshold zero is what a log has whose choice
is left open, and such a log looks at warnings only. So the terminal shows what the
threshold asked for lets through, and the file has all from `DEBUG` on, whatever happens in
between, unless that name is asked for (`routed_iff_of_configure`).
-/

namespace Bibliography.Log

open Access

/-- Logs messages one after the other; what the terminal shows of them. -/
def recordAll (log : Log) : List (Int × String) → Access String
  | [] => return ""
  | (number, text) :: later => do
    let shown ← log.record number text
    return shown ++ (← log.recordAll later)

/-- The lines of the messages whose numbers are at least `least`, in their order. -/
def linesFrom (least : Int) (messages : List (Int × String)) : String :=
  String.join ((messages.filter fun m => least ≤ m.1).map fun m => line m.1 m.2)

/-- **What becomes of messages**: the terminal shows the lines from one number on, and
the file, if there is one, has those from another number on behind what it held. No
other file changes. -/
structure Routed (path : Option Path) (shown filed : Int) (messages : List (Int × String))
    (t : Tree) (outcome : String × Tree) : Prop where
  shown_eq : outcome.1 = linesFrom shown messages
  look_eq : ∀ p ∈ path, ∀ data, t.look p = .file data →
    outcome.2.look p = .file (data ++ (linesFrom filed messages).toUTF8)
  keeps : t.Keeps (fun q => ∃ p ∈ path, q = p.target) outcome.2

/-- The outlets of a log: the terminal and, if there is one, a file. -/
def outletsOf (least : Nat) (path : Option Path) : List Outlet :=
  ⟨.terminal, least⟩ :: path.toList.map (⟨.file ·, fileThreshold⟩)

section Messages

variable {number shown filed : Int} {text : String} {least : Nat} {path : Option Path} {t : Tree}
variable {message : Int × String} {messages : List (Int × String)} {log : Log}
variable {first rest : String × Tree}

@[simp] theorem linesFrom_nil : linesFrom shown [] = "" := rfl

theorem linesFrom_cons :
    linesFrom shown (message :: messages) =
      linesFrom shown [message] ++ linesFrom shown messages := by
  by_cases h : shown ≤ message.1 <;> simp [linesFrom, h]

theorem linesFrom_singleton :
    linesFrom shown [(number, text)] = if shown ≤ number then line number text else "" := by
  by_cases h : shown ≤ number <;> simp [linesFrom, h]

/-! ## One message -/

theorem onTree_deliver_terminal {outlets : List Outlet} :
    (deliver number text (⟨.terminal, least⟩ :: outlets)).onTree t =
      ((if (least : Int) ≤ number then line number text else "") ++
        ((deliver number text outlets).onTree t).1, ((deliver number text outlets).onTree t).2) := by
  rw [deliver]
  split
  · rw [onTree_bind, onTree_bind]
    rfl
  · rw [onTree_bind, onTree_bind]
    rfl

/-- What a file takes is not shown. -/
theorem onTree_deliver_file {p : Path} {outlets : List Outlet} :
    (deliver number text (⟨.file p, least⟩ :: outlets)).onTree t =
      (deliver number text outlets).onTree
        (if (least : Int) ≤ number then ((append p (line number text)).onTree t).2 else t) := by
  rw [deliver]
  split
  · rw [onTree_bind, onTree_bind]
    exact Prod.ext String.empty_append rfl
  · rw [onTree_bind, onTree_bind]
    exact Prod.ext String.empty_append rfl

theorem onTree_deliver_nil : (deliver number text []).onTree t = ("", t) := rfl

/-- **A message that a log looks at** is shown if the terminal lets it through, and the
file takes it if that does. -/
theorem onTree_record (houtlets : log.outlets = outletsOf least path) (number : Int)
    (text : String) (t : Tree) :
    (log.record number text).onTree t =
      (if log.isEnabled number ∧ (least : Int) ≤ number then line number text else "",
        path.elim t fun p =>
          if log.isEnabled number ∧ (fileThreshold : Int) ≤ number then
            ((append p (line number text)).onTree t).2
          else t) := by
  rw [record, houtlets, outletsOf, List.isEmpty_cons]
  by_cases henabled : log.isEnabled number = true
  · simp only [henabled, true_and, if_true, Bool.false_eq_true, if_false, onTree_deliver_terminal]
    cases path with
    | none =>
      rw [Option.toList_none, List.map_nil, onTree_deliver_nil, String.append_empty]
      rfl
    | some p =>
      rw [Option.toList_some, List.map_singleton, onTree_deliver_file, onTree_deliver_nil,
        String.append_empty]
      rfl
  · have hnot : ∀ n : Int, ¬ (log.isEnabled number = true ∧ n ≤ number) := fun n h => henabled h.1
    simp only [if_neg henabled, if_neg (hnot _)]
    cases path <;> rfl

/-- One message, where the thresholds it has to pass come to one number for the terminal
and to one for the file. -/
theorem routed_record (houtlets : log.outlets = outletsOf least path)
    (hshown : ∀ n : Int, log.isEnabled n ∧ (least : Int) ≤ n ↔ shown ≤ n)
    (hfiled : ∀ p ∈ path, ∀ n : Int, log.isEnabled n ∧ (fileThreshold : Int) ≤ n ↔ filed ≤ n) :
    Routed path shown filed [(number, text)] t ((log.record number text).onTree t) := by
  have hrecord := onTree_record houtlets number text t
  refine ⟨?_, fun p hp data hdata => ?_, ?_⟩
  · rw [hrecord, linesFrom_singleton]
    simp only [hshown]
  · obtain rfl := Option.mem_def.1 hp
    rw [hrecord, linesFrom_singleton, Option.elim_some]
    simp only [hfiled p hp]
    split
    · exact look_append hdata
    · simpa using hdata
  · refine (spares_record number text t).mono fun q hq => ?_
    obtain ⟨o, ho, p, hp, rfl⟩ := hq
    rw [houtlets, outletsOf, List.mem_cons, List.mem_map] at ho
    rcases ho with rfl | ⟨p', hp', rfl⟩
    · cases hp
    · cases hp
      exact ⟨p, by simpa using hp', rfl⟩

/-! ## One message after the other -/

theorem Routed.nil : Routed path shown filed [] t ("", t) :=
  ⟨rfl, fun p _ data hdata => by simpa using hdata, .refl t⟩

theorem Routed.cons (hfirst : Routed path shown filed [message] t first)
    (hrest : Routed path shown filed messages first.2 rest) :
    Routed path shown filed (message :: messages) t (first.1 ++ rest.1, rest.2) := by
  refine ⟨?_, fun p hp data hdata => ?_, hfirst.keeps.trans hrest.keeps⟩
  · rw [linesFrom_cons, ← hfirst.shown_eq, ← hrest.shown_eq]
  · have hlines : linesFrom filed (message :: messages) = _ := linesFrom_cons
    rw [hrest.look_eq p hp _ (hfirst.look_eq p hp data hdata), hlines]
    simp [ByteArray.append_assoc]

/-- **So it goes with all messages**, each of which finds the file as those before it have
left it. -/
theorem routed_recordAll (houtlets : log.outlets = outletsOf least path)
    (hshown : ∀ n : Int, log.isEnabled n ∧ (least : Int) ≤ n ↔ shown ≤ n)
    (hfiled : ∀ p ∈ path, ∀ n : Int, log.isEnabled n ∧ (fileThreshold : Int) ≤ n ↔ filed ≤ n)
    (messages : List (Int × String)) (t : Tree) :
    Routed path shown filed messages t ((log.recordAll messages).onTree t) := by
  induction messages generalizing t with
  | nil => exact .nil
  | cons message messages ih =>
    obtain ⟨number, text⟩ := message
    rw [recordAll, onTree_bind, onTree_bind]
    exact (routed_record houtlets hshown hfiled).cons (ih _)

/-! ## The thresholds of a log -/

theorem isEnabled_iff :
    log.isEnabled number = true ↔
      0 < number ∧ ((if log.level = 0 then usualThreshold else log.level : Nat) : Int) ≤ number := by
  simp [isEnabled]

/-- **A log keeps nothing back** that an outlet of no lower threshold lets through. -/
theorem isEnabled_and_iff (hpos : log.level ≠ 0) (hle : log.level ≤ least) :
    log.isEnabled number ∧ (least : Int) ≤ number ↔ (least : Int) ≤ number := by
  rw [isEnabled_iff, if_neg hpos]
  omega

/-- But where its choice is left open, it keeps back all that is less than usual. -/
theorem isEnabled_and_iff_of_open (hopen : log.level = 0) (hle : least ≤ usualThreshold) :
    log.isEnabled number ∧ (least : Int) ≤ number ↔ (usualThreshold : Int) ≤ number := by
  have husual : 0 < usualThreshold := by decide
  rw [isEnabled_iff, if_pos hopen]
  omega

end Messages

section Configuring

variable {request : LogRequest} {stamp : String} {start log : Log} {path : Option Path} {t t' : Tree}

/-- A log that has been set up has the outlets asked for, and a threshold of its own that
is none of theirs but the least. -/
theorem Configured.outlets_eq (h : Configured request stamp start t ((.ok path, log), t')) :
    log.outlets = outletsOf (standing request.level) path ∧
      log.level = if path.isSome then min fileThreshold (standing request.level)
        else standing request.level := by
  cases h with
  | unfiled hthreshold _ | filed hthreshold _ _ =>
    obtain ⟨-, rfl⟩ := threshold_eq_ok_iff.1 hthreshold
    exact ⟨rfl, rfl⟩

/-- A file is asked for with the name of an action. -/
theorem isSome_fileAction?_iff :
    (fileAction? request).isSome ↔
      request.toFile = true ∧ ∃ action ∈ request.action, action ≠ "" := by
  unfold fileAction?
  cases request.toFile <;> cases request.action <;> simp

theorem exists_look_of_openFile {action : String} {p : Path}
    (h : (openFile request action stamp).onTree t = (.ok p, t')) :
    ∃ data, t'.look p = .file data := by
  rw [openFile, onTree_bind] at h
  split at h
  · cases h
  · rw [onTree_bind] at h
    split at h
    · cases h
    · next hopened =>
      cases h
      exact exists_look_of_append hopened

/-- The file of a log that has been set up is there, if one was asked for. -/
theorem Configured.exists_look (h : Configured request stamp start t ((.ok path, log), t')) :
    (path.isSome ↔ request.toFile = true ∧ ∃ action ∈ request.action, action ≠ "") ∧
      ∀ p ∈ path, ∃ data, t'.look p = .file data := by
  rw [← isSome_fileAction?_iff]
  cases h with
  | unfiled _ haction =>
    rw [haction]
    exact ⟨Iff.rfl, nofun⟩
  | filed _ haction hopen =>
    rw [haction]
    refine ⟨Iff.rfl, fun p hp => ?_⟩
    cases hp
    exact exists_look_of_openFile hopen

/-- **Messages go by their numbers.** Once a log has been set up, the terminal shows the
messages from the threshold on that its name stands for, and its file, if one was asked
for, has those from `DEBUG` on, of all messages that come and whatever else happens to
files in between: just when the name is not the one that lets everything through. With
that name the log looks at warnings only. -/
theorem routed_iff_of_configure
    (h : (configure request stamp start).onTree t = ((.ok path, log), t')) :
    (path.isSome ↔ request.toFile = true ∧ ∃ action ∈ request.action, action ≠ "") ∧
      (∀ p ∈ path, ∃ data, t'.look p = .file data) ∧
      ((∀ messages t, Routed path (standing request.level) Level.debug.number messages t
          ((log.recordAll messages).onTree t)) ↔
        request.level.map uppered ≠ some "NOTSET") ∧
      (request.level.map uppered = some "NOTSET" → ∀ messages t,
        Routed path Level.warning.number Level.warning.number messages t
          ((log.recordAll messages).onTree t)) := by
  have hconfigured := configured_onTree request stamp start t
  rw [h] at hconfigured
  obtain ⟨houtlets, hlevel⟩ := hconfigured.outlets_eq
  obtain ⟨hasked, hlook⟩ := hconfigured.exists_look
  have hopen : request.level.map uppered = some "NOTSET" → ∀ messages t,
      Routed path Level.warning.number Level.warning.number messages t
        ((log.recordAll messages).onTree t) := by
    intro hname
    rw [standing_eq_zero_iff.2 hname] at houtlets hlevel
    have hzero : log.level = 0 := by simpa using hlevel
    exact routed_recordAll houtlets (fun n => isEnabled_and_iff_of_open hzero (by decide))
      fun _ _ n => isEnabled_and_iff_of_open hzero (by decide)
  refine ⟨hasked, hlook, ⟨fun hall hname => ?_, fun hname => ?_⟩, hopen⟩
  · -- a message of information is below what the log looks at
    have hasked := (hall [(20, "")] t').shown_eq
    rw [(hopen hname [(20, "")] t').shown_eq, standing_eq_zero_iff.2 hname] at hasked
    revert hasked
    decide
  · have hpos : standing request.level ≠ 0 := fun hzero => hname (standing_eq_zero_iff.1 hzero)
    have hlevelPos : log.level ≠ 0 := by
      have hfile : fileThreshold ≠ 0 := by decide
      rw [hlevel]
      split
      · omega
      · exact hpos
    refine routed_recordAll houtlets (fun n => isEnabled_and_iff hlevelPos ?_)
      fun p hp n => isEnabled_and_iff hlevelPos ?_
    · rw [hlevel]
      split
      · exact Nat.min_le_right _ _
      · exact Nat.le_refl _
    · rw [hlevel, Option.mem_def.1 hp]
      exact Nat.min_le_left _ _

/-- A log of warnings with a file. -/
theorem routed_iff_of_configure_warning :
    let request : LogRequest :=
      { level := some "warning", action := some "search", toFile := true }
    let path : Path := ⟨"", ["log", "search", "search_0102030405.log"]⟩
    let log : Log := ⟨10, true, outletsOf 30 (some path)⟩
    ∃ t', (configure request "0102030405" fresh).onTree .empty = ((.ok (some path), log), t') ∧
      (∃ data, t'.look path = .file data) ∧
      ∀ messages t, Routed (some path) 30 10 messages t ((log.recordAll messages).onTree t) := by
  intro request path log
  have hset : ((configure request "0102030405" fresh).onTree .empty).1 = (.ok (some path), log) := by
    decide +kernel
  have hname : request.level.map uppered ≠ some "NOTSET" := by decide +kernel
  have hstanding : standing request.level = 30 := by decide +kernel
  -- what else is in the tree does not matter, and is not to be worked out
  generalize hrun : (configure request "0102030405" fresh).onTree .empty = outcome at hset ⊢
  obtain ⟨set, t'⟩ := outcome
  obtain rfl : set = (.ok (some path), log) := hset
  obtain ⟨-, hlook, hrouted, -⟩ := routed_iff_of_configure hrun
  rw [hstanding] at hrouted
  exact ⟨t', rfl, hlook path rfl, hrouted.2 hname⟩

/-- A log that is to let everything through shows nothing of a message below the warnings,
and its file takes nothing of it. -/
theorem not_routed_notset :
    let request : LogRequest :=
      { level := some "notset", action := some "search", toFile := true }
    let path : Path := ⟨"", ["log", "search", "search_0102030405.log"]⟩
    let log : Log := ⟨0, true, outletsOf 0 (some path)⟩
    standing request.level = 0 ∧
      ∃ t', (configure request "0102030405" fresh).onTree .empty =
          ((.ok (some path), log), t') ∧
        (log.record 10 "one token").onTree t' = ("", t') ∧
        ¬ Routed (some path) (standing request.level) Level.debug.number [(10, "one token")] t'
          ((log.recordAll [(10, "one token")]).onTree t') := by
  intro request path log
  have hset : ((configure request "0102030405" fresh).onTree .empty).1 = (.ok (some path), log) := by
    decide +kernel
  have hstanding : standing request.level = 0 := by decide +kernel
  generalize (configure request "0102030405" fresh).onTree .empty = outcome at hset ⊢
  obtain ⟨set, t'⟩ := outcome
  obtain rfl : set = (.ok (some path), log) := hset
  refine ⟨hstanding, t', rfl, rfl, fun hrouted => ?_⟩
  have hshown := hrouted.shown_eq
  have hnothing : ((log.recordAll [(10, "one token")]).onTree t').1 = "" := rfl
  rw [hnothing, hstanding] at hshown
  exact absurd hshown (by decide)

end Configuring

end Bibliography.Log
