import Bibliography.Command.Session
import Bibliography.Proofs.Log.File
/-!
# What a search leaves behind

Until the page is written, a search prints nothing and writes to no file but
that of its log (`quiet_load`, `quiet_search`). Writing a page fails before
anything is printed or saved, or not at all, so a search that is given up has
printed nothing and saved nothing (`failsQuietly_searchAndWrite`).
-/

namespace Bibliography.Command

variable {α β : Type}

namespace Session

variable {m : Session α} {f : α → Session β} {s : Transcript}

section Files

variable {σ : Type} [Files σ] {t : σ}

/-- What something done in a session comes to: its result, the transcript and
the files that it leaves. -/
def after (m : Session α) (s : Transcript) (t : σ) : (α × Transcript) × σ :=
  (m s).on t

theorem after_bind :
    (m >>= f).after s t = (f (m.after s t).1.1).after (m.after s t).1.2 (m.after s t).2 :=
  Access.on_bind

theorem after_access {a : Access α} :
    (access a).after s t = (((a.on t).1, s), (a.on t).2) :=
  Access.on_bind

end Files

/-- **That nothing is printed**, the log stays as it is set up, and no file of a tree
is written to but that of the log. -/
structure Quiet (m : Session α) : Prop where
  out_eq : ∀ s (t : Tree), (m.after s t).1.2.out = s.out
  log_eq : ∀ s (t : Tree), (m.after s t).1.2.log = s.log
  keeps : ∀ s (t : Tree), t.Keeps s.log.IsFile (m.after s t).2

theorem quiet_pure (x : α) : Quiet (pure x : Session α) where
  out_eq _ _ := rfl
  log_eq _ _ := rfl
  keeps _ t := .refl t

theorem quiet_bind (hm : Quiet m) (hf : ∀ x, Quiet (f x)) : Quiet (m >>= f) where
  out_eq s t := by rw [after_bind, (hf _).out_eq, hm.out_eq]
  log_eq s t := by rw [after_bind, (hf _).log_eq, hm.log_eq]
  keeps s t := by
    rw [after_bind]
    have hrest := (hf (m.after s t).1.1).keeps (m.after s t).1.2 (m.after s t).2
    rw [hm.log_eq] at hrest
    exact (hm.keeps s t).trans hrest

/-- What spares every file can be done quietly. -/
theorem quiet_access {a : Access α} (ha : ∀ P, a.Spares P) : Quiet (access a) where
  out_eq s t := by rw [after_access]
  log_eq s t := by rw [after_access]
  keeps s t := by
    rw [after_access]
    exact ha _ t

theorem quiet_report (text : String) : Quiet (report text) where
  out_eq _ _ := rfl
  log_eq _ _ := rfl
  keeps _ t := .refl t

/-- Messages are shown beside what is printed. -/
theorem quiet_say (level : Log.Level) (parts : List String) : Quiet (say level parts) := by
  have hafter : ∀ s (t : Tree), (say level parts).after s t =
      let r := (s.log.record level.number (String.join parts)).on t
      (((), { s with err := s.err ++ r.1 }), r.2) := by
    intro s t
    have hget : (get : Session Transcript).after s t = ((s, s), t) := rfl
    unfold say
    rw [after_bind, after_bind, hget, after_access]
    rfl
  refine ⟨fun s t => ?_, fun s t => ?_, fun s t => ?_⟩
  · rw [hafter]
  · rw [hafter]
  · rw [hafter]
    exact Log.spares_record _ _ t

end Session

namespace Attempt

open Session

variable {m : Attempt α} {f : α → Attempt β} {s : Transcript} {t : Tree}

/-- One attempt after another: the second is made if the first does not fail. -/
theorem after_run_bind :
    Session.after (m >>= f).run s t =
      match Session.after m.run s t with
      | ((.ok x, s'), t') => Session.after (f x).run s' t'
      | ((.error e, s'), t') => ((.error e, s'), t') := by
  have hbind : Session.after (m >>= f).run s t =
      Session.after (ExceptT.bindCont f (Session.after m.run s t).1.1) (Session.after m.run s t).1.2
        (Session.after m.run s t).2 :=
    Session.after_bind
  rw [hbind]
  obtain ⟨⟨r, s'⟩, t'⟩ := Session.after m.run s t
  cases r <;> rfl

/-- Something done in a session does not fail. -/
theorem after_run_lift {m : Session α} :
    Session.after (ExceptT.lift m : Attempt α).run s t =
      ((.ok (m.after s t).1.1, (m.after s t).1.2), (m.after s t).2) :=
  Access.onTree_bind

/-! ## Quiet attempts -/

/-- An attempt that is quiet whether it fails or not. -/
def Quiet (m : Attempt α) : Prop :=
  Session.Quiet m.run

theorem quiet_pure (x : α) : Quiet (pure x : Attempt α) :=
  Session.quiet_pure _

theorem quiet_bind (hm : Quiet m) (hf : ∀ x, Quiet (f x)) : Quiet (m >>= f) := by
  refine Session.quiet_bind hm fun r => ?_
  cases r with
  | ok x => exact hf x
  | error e => exact Session.quiet_pure _

/-- Something done in a session that cannot fail. -/
theorem quiet_lift {m : Session α} (hm : Session.Quiet m) : Quiet (ExceptT.lift m) :=
  Session.quiet_bind hm fun _ => Session.quiet_pure _

theorem quiet_orFail {ε : Type} (reason : ε → Failure) (x : Except ε α) :
    Quiet (orFail reason x) := by
  cases x <;> exact Session.quiet_pure _

theorem quiet_say (level : Log.Level) (parts : List String) :
    Quiet (ExceptT.lift (say level parts)) :=
  quiet_lift (Session.quiet_say level parts)

/-! ## The parts of a search -/

theorem quiet_load (path : Path) : Quiet (load path) := by
  refine quiet_bind (quiet_lift (quiet_access fun P => (Access.looks_lookAt path).spares))
    fun place => ?_
  refine quiet_bind (quiet_orFail _ _) fun library => ?_
  exact quiet_bind (quiet_say _ _) fun _ => quiet_bind (quiet_say _ _) fun _ => quiet_pure _

theorem quiet_find (library : List Record) (query : String) : Quiet (find library query) := by
  unfold find
  split
  · exact quiet_bind (quiet_say _ _) fun _ => quiet_orFail _ _
  · exact quiet_bind (quiet_say _ _) fun _ => quiet_bind (quiet_orFail _ _) fun _ =>
      quiet_bind (quiet_say _ _) fun _ => quiet_pure _

theorem quiet_search [Calendar.Reader] (library : List Record) (plan : Plan) :
    Quiet (search library plan) := by
  refine quiet_bind (quiet_say _ _) fun _ => quiet_bind (quiet_find _ _) fun found => ?_
  refine quiet_bind (quiet_orFail _ _) fun found => ?_
  exact quiet_bind (quiet_say _ _) fun _ => quiet_bind (quiet_say _ _) fun _ => quiet_pure _

/-! ## Writing -/

/-- An attempt that does not fail. -/
def Succeeds (m : Attempt α) : Prop :=
  ∀ s (t : Tree) e, (Session.after m.run s t).1.1 ≠ .error e

theorem succeeds_lift (m : Session α) : Succeeds (liftM m : Attempt α) := by
  intro s t e
  show (Session.after (ExceptT.lift m : Attempt α).run s t).1.1 ≠ .error e
  rw [after_run_lift]
  exact nofun

theorem succeeds_ok {ε : Type} (reason : ε → Failure) (x : α) :
    Succeeds (orFail reason (.ok x)) := by
  intro s t e he
  cases he

theorem succeeds_bind (hm : Succeeds m) (hf : ∀ x, Succeeds (f x)) : Succeeds (m >>= f) := by
  intro s t e
  have hok := hm s t
  rw [after_run_bind]
  generalize Session.after m.run s t = r at hok ⊢
  obtain ⟨⟨x, s'⟩, t'⟩ := r
  cases x with
  | error e' => exact absurd rfl (hok e')
  | ok x => exact hf x s' t' e

/-- An attempt that is quiet if it fails. -/
def FailsQuietly (m : Attempt α) : Prop :=
  ∀ s (t : Tree) e, (Session.after m.run s t).1.1 = .error e →
    (Session.after m.run s t).1.2.out = s.out ∧ (Session.after m.run s t).1.2.log = s.log ∧
      t.Keeps s.log.IsFile (Session.after m.run s t).2

theorem Quiet.failsQuietly (hm : Quiet m) : FailsQuietly m :=
  fun s t _ _ => ⟨hm.out_eq s t, hm.log_eq s t, hm.keeps s t⟩

theorem Succeeds.failsQuietly (hm : Succeeds m) : FailsQuietly m :=
  fun s t e he => absurd he (hm s t e)

theorem failsQuietly_bind (hm : Quiet m) (hf : ∀ x, FailsQuietly (f x)) :
    FailsQuietly (m >>= f) := by
  intro s t e he
  have hout := hm.out_eq s t
  have hlog := hm.log_eq s t
  have hkeeps := hm.keeps s t
  rw [after_run_bind] at he ⊢
  generalize Session.after m.run s t = r at he hout hlog hkeeps ⊢
  obtain ⟨⟨x, s'⟩, t'⟩ := r
  cases x with
  | error => exact ⟨hout, hlog, hkeeps⟩
  | ok x =>
    obtain ⟨hout', hlog', hkeeps'⟩ := hf x s' t' e he
    dsimp only at hout hlog
    rw [hlog] at hlog' hkeeps'
    exact ⟨hout'.trans hout, hlog', hkeeps.trans hkeeps'⟩

theorem quiet_directory (path : Path) : Quiet (access (Access.directory path)) :=
  quiet_lift (quiet_access fun _ => Access.spares_directory path)

/-- An access that changes nothing where it fails, before what does not fail. -/
theorem failsQuietly_access {ε γ : Type} {a : Access (Except ε γ)} {reason : ε → Failure}
    {f : γ → Attempt β} (hsame : ∀ t e, (a.onTree t).1 = .error e → (a.onTree t).2 = t)
    (hf : ∀ x, Succeeds (f x)) :
    FailsQuietly (access a >>= fun r => orFail reason r >>= f) := by
  intro s t e he
  have haccess : Session.after (access a).run s t = ((.ok (a.onTree t).1, s), (a.onTree t).2) := by
    rw [access, after_run_lift, after_access]
    rfl
  rw [after_run_bind, haccess] at he ⊢
  dsimp only at he ⊢
  cases hresult : (a.onTree t).1 with
  | error e' =>
    rw [hsame t e' hresult]
    exact ⟨rfl, rfl, .refl t⟩
  | ok x =>
    rw [hresult] at he
    exact absurd he (succeeds_bind (succeeds_ok reason x) hf s _ e)

theorem failsQuietly_save (directory : Path) (action stamp text : String) :
    FailsQuietly (save directory action stamp text) := by
  refine failsQuietly_bind (quiet_directory _) fun made => ?_
  refine failsQuietly_bind (quiet_orFail _ _) fun _ => ?_
  exact failsQuietly_access (fun _ _ => Access.onTree_save_error) fun _ => succeeds_lift _

/-- A result that may be missing, and what is done with it. -/
theorem failsQuietly_orFail {ε : Type} {reason : ε → Failure} {x : Except ε α}
    (h : ∀ a, x = .ok a → FailsQuietly (f a)) : FailsQuietly (orFail reason x >>= f) := by
  cases x with
  | error e => exact Quiet.failsQuietly (Session.quiet_pure _)
  | ok a => exact h a rfl

/-- Only JSON is saved, and nothing has been printed then. -/
theorem eq_empty_of_finish {w w' : Output.Writer} {page : SearchPage} {query printed : String}
    {directory : Path} {text : String} (htake : w.take page query = .ok (printed, w'))
    (hfinish : w'.finish = .save directory text) : printed = "" := by
  have hjson : w'.format = .json := by
    unfold Output.Writer.finish at hfinish
    split at hfinish
    · assumption
    · cases hfinish
  unfold Output.Writer.take at htake
  cases hformat : w.format with
  | json =>
    rw [hformat] at htake
    exact (Prod.mk.inj (Except.ok.inj htake)).1.symm
  | pretty =>
    rw [hformat] at htake
    obtain ⟨_, -, heq⟩ := map_eq_ok_iff.1 htake
    obtain ⟨-, rfl⟩ := Prod.mk.inj heq
    cases hformat.symm.trans hjson
  | ids =>
    rw [hformat] at htake
    obtain ⟨-, rfl⟩ := Prod.mk.inj (Except.ok.inj htake)
    cases hformat.symm.trans hjson
  | uuid =>
    rw [hformat] at htake
    obtain ⟨-, rfl⟩ := Prod.mk.inj (Except.ok.inj htake)
    cases hformat.symm.trans hjson

theorem quiet_print_empty : Quiet (liftM (print "") : Attempt Unit) := by
  refine quiet_lift ⟨fun s t => ?_, fun _ _ => rfl, fun _ t => .refl t⟩
  exact String.append_empty

/-- A page cannot be written in part: either nothing of it is printed or saved,
or all of it. -/
theorem failsQuietly_write (settings : OutputSettings) (format : Output.Format) (page : SearchPage)
    (query action stamp : String) :
    FailsQuietly (write settings format page query action stamp) := by
  refine failsQuietly_orFail fun taken htaken => ?_
  obtain ⟨printed, writer⟩ := taken
  dsimp only
  cases hfinish : writer.finish with
  | print text => exact (succeeds_bind (succeeds_lift _) fun _ => succeeds_lift _).failsQuietly
  | save directory text =>
    -- saving may fail, but then nothing has been printed
    obtain rfl := eq_empty_of_finish htaken hfinish
    exact failsQuietly_bind quiet_print_empty fun _ => failsQuietly_save _ _ _ _

/-- **A search that is given up has printed nothing and saved nothing.** -/
theorem failsQuietly_searchAndWrite [Calendar.Reader] (settings : Settings)
    (options : SearchOptions) (words : List String) (action stamp : String) :
    FailsQuietly (searchAndWrite settings options words action stamp) :=
  failsQuietly_bind (quiet_load _) fun _ => failsQuietly_bind (quiet_search _ _) fun _ =>
    failsQuietly_write _ _ _ _ _ _

end Attempt

end Bibliography.Command
