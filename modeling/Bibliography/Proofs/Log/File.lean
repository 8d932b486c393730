import Bibliography.Log.Basic
import Bibliography.Proofs.File.Access
/-!
# The file of a log

What setting up a log comes to is told once (`configured`). A log is written to one
file at most, whose path is known from what it is set up with, and messages are
written nowhere else (`spares_record`).
-/

namespace Bibliography

namespace Log

/-- The file that the messages of an action go to. -/
def fileOf (request : LogRequest) (action stamp : String) : Path :=
  filePath (actionDirectory request action) action stamp

/-- Whether a path leads to where messages of the log are written. -/
def IsFile (log : Log) (q : Path) : Prop :=
  ∃ o ∈ log.outlets, ∃ path, o.destination = .file path ∧ q = path.target

variable {request : LogRequest} {action stamp : String} {log : Log}

open Access

theorem spares_openFile :
    (openFile request action stamp).Spares (· = (fileOf request action stamp).target) := by
  refine spares_bind (spares_directory _) fun made => ?_
  cases made with
  | error e => exact spares_pure _
  | ok =>
    refine spares_bind (spares_write _ true "") fun opened => ?_
    cases opened with
    | error e => exact spares_pure _
    | ok => exact spares_pure _

/-- A file that is opened is the one of the action. -/
theorem openFile_eq_ok {t : Tree} {path : Path}
    (h : ((openFile request action stamp).onTree t).1 = .ok path) :
    path = fileOf request action stamp := by
  rw [openFile, onTree_bind] at h
  split at h
  · cases h
  · rw [onTree_bind] at h
    split at h
    · cases h
    · exact (Except.ok.inj h).symm

/-- What is handed to outlets is written where they lead, and nowhere else. -/
theorem spares_deliver {P : Path → Prop} (number : Int) (text : String) {outlets : List Outlet}
    (hP : ∀ o ∈ outlets, ∀ path, o.destination = .file path → P path.target) :
    (deliver number text outlets).Spares P := by
  induction outlets with
  | nil => exact spares_pure _
  | cons o rest ih =>
    obtain ⟨ho, hrest⟩ := List.forall_mem_cons.1 hP
    have hwrite : (o.destination.write (line number text)).Spares P := by
      cases hdestination : o.destination with
      | terminal => exact spares_pure _
      | file path =>
        have happend : (append path (line number text)).Spares P :=
          (spares_write path true _).mono fun q hq => hq ▸ ho path hdestination
        exact spares_bind (spares_bind happend fun _ => spares_pure _) fun _ => spares_pure _
    rw [deliver]
    split
    · exact spares_bind hwrite fun _ => spares_bind (ih hrest) fun _ => spares_pure _
    · exact spares_bind (spares_pure _) fun _ => spares_bind (ih hrest) fun _ => spares_pure _

/-- Messages go to the file of the log. -/
theorem spares_record (number : Int) (text : String) :
    (log.record number text).Spares log.IsFile := by
  unfold record
  split
  · split
    · exact spares_pure _
    · exact spares_deliver number text fun o ho path hpath => ⟨o, ho, path, hpath, rfl⟩
  · exact spares_pure _

/-! ## Setting up -/

/-- The names of levels are in upper case. -/
theorem uppered_name (level : Level) : uppered level.name = level.name := by
  cases level <;> decide +kernel

theorem ofName?_eq_some_iff {name : String} {level : Level} :
    Level.ofName? name = some level ↔ name = level.name := by
  constructor
  · intro h
    rw [Level.ofName?, List.find?_eq_some_iff_append] at h
    exact (eq_of_beq h.1).symm
  · rintro rfl
    cases level <;> rfl

/-- The threshold of a level is its number. -/
theorem threshold_name (level : Level) : threshold (some level.name) = .ok level.number := by
  rw [threshold, Option.getD_some, uppered_name]
  cases level <;> rfl

/-- All outlets are taken away. -/
theorem withoutOutlets_eq : log.withoutOutlets = { log with outlets := [] } := by
  obtain ⟨level, isApart, outlets⟩ := log
  unfold withoutOutlets
  dsimp only
  induction outlets with
  | nil => rfl
  | cons o rest ih => rw [List.foldl_cons, List.erase_cons_head, ih]

/-- **What setting up a log comes to**, whatever the files: its threshold has a
reserved name, or no file is asked for, or its file cannot be opened, or it is opened. -/
inductive Configured {σ : Type} [Files σ] (request : LogRequest) (stamp : String) (log : Log)
    (s : σ) : (Except LogError (Option Path) × Log) × σ → Prop
  | reserved {name : ReservedName} (hthreshold : threshold request.level = .error name) :
      Configured request stamp log s ((.error (.level name), ⟨log.level, log.isApart, []⟩), s)
  | unfiled {least : Nat} (hthreshold : threshold request.level = .ok least)
      (haction : fileAction? request = none) :
      Configured request stamp log s ((.ok none, ⟨least, true, [⟨.terminal, least⟩]⟩), s)
  | refused {least : Nat} {action : String} {e : FileError} {s' : σ}
      (hthreshold : threshold request.level = .ok least)
      (haction : fileAction? request = some action)
      (hopen : (openFile request action stamp).on s = (.error e, s')) :
      Configured request stamp log s
        ((.error (.file e), ⟨log.level, log.isApart, [⟨.terminal, least⟩]⟩), s')
  | filed {least : Nat} {action : String} {path : Path} {s' : σ}
      (hthreshold : threshold request.level = .ok least)
      (haction : fileAction? request = some action)
      (hopen : (openFile request action stamp).on s = (.ok path, s')) :
      Configured request stamp log s
        ((.ok (some path),
          ⟨min fileThreshold least, true, [⟨.terminal, least⟩, ⟨.file path, fileThreshold⟩]⟩), s')

theorem configured {σ : Type} [Files σ] (request : LogRequest) (stamp : String) (log : Log)
    (s : σ) : Configured request stamp log s ((configure request stamp log).on s) := by
  unfold configure
  rw [withoutOutlets_eq]
  cases hthreshold : threshold request.level with
  | error name => exact .reserved hthreshold
  | ok least =>
    cases haction : fileAction? request with
    | none => exact .unfiled hthreshold haction
    | some action =>
      dsimp only
      rw [on_bind]
      cases hopen : (openFile request action stamp).on s with
      | mk opened s' =>
        cases opened with
        | error e => exact .refused hthreshold haction hopen
        | ok path => exact .filed hthreshold haction hopen

theorem configured_onTree (request : LogRequest) (stamp : String) (log : Log) (t : Tree) :
    Configured request stamp log t ((configure request stamp log).onTree t) :=
  configured request stamp log t

/-- **The threshold that is asked for is that of the terminal**, whether or not a
file can be opened. -/
theorem terminal_configure {n : Nat} (hthreshold : threshold request.level = .ok n) (t : Tree) :
    ((configure request stamp log).onTree t).1.2.terminal = some n := by
  have hconfigured := configured_onTree request stamp log t
  generalize (configure request stamp log).onTree t = outcome at hconfigured ⊢
  cases hconfigured with
  | reserved h => cases h.symm.trans hthreshold
  | unfiled h _ | refused h _ _ | filed h _ _ =>
    obtain rfl := Except.ok.inj (h.symm.trans hthreshold)
    rfl

/-- The paths that a log which is being set up may write to. -/
def WouldFile (request : LogRequest) (stamp : String) (q : Path) : Prop :=
  ∃ action, fileAction? request = some action ∧ q = (fileOf request action stamp).target

variable {t : Tree} {outcome : (Except LogError (Option Path) × Log) × Tree}

/-- A log that has been set up writes to the file that it would write to. -/
theorem Configured.wouldFile (h : Configured request stamp log t outcome) {q : Path}
    (hq : outcome.1.2.IsFile q) : WouldFile request stamp q := by
  obtain ⟨o, ho, path, hpath, rfl⟩ := hq
  cases h with
  | reserved => cases ho
  | unfiled | refused =>
    obtain rfl := List.mem_singleton.1 ho
    cases hpath
  | @filed least action path' t' _ haction hopen =>
    rcases List.mem_cons.1 ho with rfl | ho
    · cases hpath
    obtain rfl := List.mem_singleton.1 ho
    cases hpath
    exact ⟨action, haction, by rw [openFile_eq_ok (congrArg Prod.fst hopen)]⟩

theorem Configured.keeps (h : Configured request stamp log t outcome) :
    t.Keeps (WouldFile request stamp) outcome.2 := by
  have hopened : ∀ action, fileAction? request = some action →
      t.Keeps (WouldFile request stamp) ((openFile request action stamp).on t).2 :=
    fun action haction => (spares_openFile t).mono fun q hq => ⟨action, haction, hq⟩
  cases h with
  | reserved | unfiled => exact .refl t
  | refused _ haction hopen => simpa [hopen] using hopened _ haction
  | filed _ haction hopen => simpa [hopen] using hopened _ haction

end Log

end Bibliography
