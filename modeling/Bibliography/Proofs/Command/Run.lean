import Bibliography.Command.Run
import Bibliography.Proofs.Command.Session
/-!
# How the command line goes

A run asks its surroundings one thing after the other, and each answer leads on or
ends it. That is written down once (`on_run`, `on_runSearch`), for any surroundings
and any files. A search whose log has been set up ends well or is given up
(`ending_loggedSearch`), and in a tree it is given up quietly
(`endsQuietly_loggedSearch`).
-/

namespace Bibliography.Command

variable {σ : Type} [Files σ] {s : σ}
variable {env : Environment} {stamp : String} {args rest words : List String}
  {settings : Settings} {options : SearchOptions}

/-! ## A search -/

/-- What the log of a search is set up with. -/
def logRequest (settings : Settings) : LogRequest :=
  { level := some settings.log.level.name, action := some searchName
    toFile := settings.log.toFile, directory := some settings.log.directory }

/-- The file that the log of a search is written to. -/
def logFile (settings : Settings) (stamp : String) : Path :=
  Log.fileOf (logRequest settings) searchName stamp

/-- Makes an attempt, and reports why it fails. -/
def concluded (m : Attempt Unit) : Session Ending := do
  match ← m.run with
  | .ok () => return .finished
  | .error e =>
    Session.say .error ["Search failed: ", e.message]
    Session.report "Aborted!\n"
    return .aborted

/-- What fails in an attempt is reported. -/
theorem ending_concluded (m : Attempt Unit) (transcript : Transcript) (s : σ) :
    ((concluded m).after transcript s).1.1 = .finished ∨
      ((concluded m).after transcript s).1.1 = .aborted := by
  unfold concluded
  rw [Session.after_bind]
  generalize (Session.after m.run transcript s).1.1 = result
  cases result with
  | ok => exact .inl rfl
  | error e =>
    dsimp only
    rw [Session.after_bind, Session.after_bind]
    exact .inr rfl

/-- Something that comes to its end, or is given up when it has only been
logged. -/
def EndsQuietly (m : Session Ending) : Prop :=
  ∀ s (t : Tree), (m.after s t).1.1 = .finished ∨
    (m.after s t).1.1 = .aborted ∧ (m.after s t).1.2.out = s.out ∧
      t.Keeps s.log.IsFile (m.after s t).2

theorem endsQuietly_bind {α : Type} {m : Session α} {f : α → Session Ending}
    (hm : Session.Quiet m) (hf : ∀ x, EndsQuietly (f x)) : EndsQuietly (m >>= f) := by
  intro s t
  have hout := hm.out_eq s t
  have hlog := hm.log_eq s t
  have hkeeps := hm.keeps s t
  rw [Session.after_bind]
  refine (hf (m.after s t).1.1 (m.after s t).1.2 (m.after s t).2).imp id ?_
  rintro ⟨hending, hout', hkeeps'⟩
  rw [hlog] at hkeeps'
  exact ⟨hending, hout'.trans hout, hkeeps.trans hkeeps'⟩

theorem endsQuietly_aborted : EndsQuietly (pure .aborted) :=
  fun _ t => .inr ⟨rfl, rfl, .refl t⟩

theorem endsQuietly_concluded {m : Attempt Unit} (hm : m.FailsQuietly) :
    EndsQuietly (concluded m) := by
  intro s t
  have hfails := hm s t
  unfold concluded
  rw [Session.after_bind]
  generalize Session.after m.run s t = r at hfails ⊢
  obtain ⟨⟨result, s'⟩, t'⟩ := r
  cases result with
  | ok => exact .inl rfl
  | error e =>
    obtain ⟨hout, hlog, hkeeps⟩ := hfails e rfl
    have hreport := endsQuietly_bind (Session.quiet_say .error ["Search failed: ", e.message])
      fun _ => endsQuietly_bind (Session.quiet_report "Aborted!\n") fun _ => endsQuietly_aborted
    refine (hreport s' t').imp id ?_
    rintro ⟨hending, hout', hkeeps'⟩
    dsimp only at hout hlog hkeeps
    rw [hlog] at hkeeps'
    exact ⟨hending, hout'.trans hout, hkeeps.trans hkeeps'⟩

variable [Surroundings]

/-- A search whose log has been set up. -/
def loggedSearch (settings : Settings) (options : SearchOptions) (words : List String)
    (stamp : String) : Option Path → Session Ending
  | none => concluded (Attempt.searchAndWrite settings options words searchName stamp)
  | some path => do
    Session.say .debug ["Writing log file ", path.toString]
    concluded (Attempt.searchAndWrite settings options words searchName stamp)

theorem after_searchSession :
    (searchSession settings options words stamp).after {} s =
      match (Log.configure (logRequest settings) stamp .fresh).on s with
      | ((.error e, log), s') => ((.escaped (.log e), { log }), s')
      | ((.ok path, log), s') =>
        (loggedSearch settings options words stamp path).after { log } s' := by
  have hget : (get : Session Transcript).after {} s = (({}, {}), s) := rfl
  generalize hconf : (Log.configure (logRequest settings) stamp .fresh).on s = r
  obtain ⟨⟨configured, log⟩, s'⟩ := r
  have haccess : (Session.access (Log.configure (logRequest settings) stamp .fresh)).after {} s =
      (((configured, log), {}), s') := by
    rw [Session.after_access, hconf]
  -- the log is set up first, and what follows depends on what came of that
  unfold searchSession
  rw [Session.after_bind, hget, Session.after_bind]
  unfold logRequest at haccess
  dsimp only
  rw [haccess]
  cases configured with
  | error e => rfl
  | ok path => cases path <;> rfl

/-- **Once its log has been set up, a search ends well or is given up.** -/
theorem ending_loggedSearch (path : Option Path) (transcript : Transcript) (s : σ) :
    ((loggedSearch settings options words stamp path).after transcript s).1.1 = .finished ∨
      ((loggedSearch settings options words stamp path).after transcript s).1.1 = .aborted := by
  cases path with
  | none => exact ending_concluded _ _ _
  | some path =>
    unfold loggedSearch
    rw [Session.after_bind]
    exact ending_concluded _ _ _

/-- A search that does not come to its end has only been logged. -/
theorem endsQuietly_loggedSearch (path : Option Path) :
    EndsQuietly (loggedSearch settings options words stamp path) := by
  have hconcluded : EndsQuietly (concluded
      (Attempt.searchAndWrite settings options words searchName stamp)) :=
    endsQuietly_concluded (Attempt.failsQuietly_searchAndWrite _ _ _ _ _)
  cases path with
  | none => exact hconcluded
  | some path => exact endsQuietly_bind (Session.quiet_say _ _) fun _ => hconcluded

/-! ## The command line -/

/-- What comes of a search, and the files that it leaves. -/
def searched (settings : Settings) (options : SearchOptions) (words : List String) (stamp : String)
    (s : σ) : Outcome × σ :=
  let r := (searchSession settings options words stamp).after {} s
  (⟨r.1.1, r.1.2.out, r.1.2.err⟩, r.2)

theorem on_runSearch :
    (runSearch settings stamp rest).on s =
      match (Surroundings.readSearch resolveSort rest).on s with
      | (.call call, s') => searched settings call.options call.words stamp s'
      | (.help page, s') => (.printed page, s')
      | (.misuse screen, s') => (.misused screen, s')
      | (.crashed c, s') => (.escaped (.arguments c), s') := by
  unfold runSearch
  rw [Access.on_inquire_bind]
  generalize (Surroundings.readSearch resolveSort rest).on s = r
  obtain ⟨reply, s'⟩ := r
  cases reply with
  | call call =>
    unfold searched
    dsimp only [onCall]
    generalize searchSession settings call.options call.words stamp = session
    exact Access.on_bind
  | help | misuse | crashed => rfl

theorem on_withSettings {config : Option Path} {next : Settings → Access Outcome} :
    (withSettings env config next).on s =
      match (lookAtConfig config).on s with
      | (place, s') =>
        match Settings.ofDocuments Surroundings.document env Settings.builtIn place with
        | .ok settings => (next settings).on s'
        | .error e =>
          (if isMisuse e then .misused (Surroundings.refusal e.message) else .escaped (.config e),
            s') := by
  unfold withSettings
  rw [Access.on_inquire_bind]
  generalize (lookAtConfig config).on s = r
  obtain ⟨place, s'⟩ := r
  dsimp only
  generalize Settings.ofDocuments Surroundings.document env Settings.builtIn place = read
  cases read with
  | ok => rfl
  | error e =>
    dsimp only
    split <;> rfl

theorem on_run :
    (run env stamp args).on s =
      match (Surroundings.readGroup args).on s with
      | (.call call, s₁) =>
        match (Surroundings.environment env).on s₁ with
        | (.ok env', s₂) =>
          (withSettings env' call.config fun settings => runSearch settings stamp call.rest).on s₂
        | (.error c, s₂) => (.escaped (.environment c), s₂)
      | (.help page, s₁) => (.printed page, s₁)
      | (.misuse screen, s₁) => (.misused screen, s₁)
      | (.crashed c, s₁) => (.escaped (.arguments c), s₁) := by
  unfold run
  rw [Access.on_inquire_bind]
  generalize (Surroundings.readGroup args).on s = r
  obtain ⟨reply, s₁⟩ := r
  cases reply with
  | call call =>
    dsimp only [onCall]
    rw [Access.on_inquire_bind]
    generalize (Surroundings.environment env).on s₁ = r
    obtain ⟨completed, s₂⟩ := r
    cases completed <;> rfl
  | help | misuse | crashed => rfl

/-- **The command line calls for a search, with an environment and what stands at the
place of its settings**, as they are found one after the other. -/
inductive Chooses (env : Environment) (args : List String) (s : σ) :
    Environment → Option Place → List String → σ → Prop
  | mk {call : GroupCall} {env' : Environment} {place : Option Place} {s₁ s₂ s₃ : σ}
      (hreply : (Surroundings.readGroup args).on s = (.call call, s₁))
      (henv : (Surroundings.environment env).on s₁ = (.ok env', s₂))
      (hplace : (lookAtConfig call.config).on s₂ = (place, s₃)) :
      Chooses env args s env' place call.rest s₃

theorem Chooses.on_run {env' : Environment} {place : Option Place} {s' : σ}
    (h : Chooses env args s env' place rest s') :
    (run env stamp args).on s =
      match Settings.ofDocuments Surroundings.document env' Settings.builtIn place with
      | .ok settings => (runSearch settings stamp rest).on s'
      | .error e =>
        (if isMisuse e then .misused (Surroundings.refusal e.message) else .escaped (.config e),
          s') := by
  obtain ⟨hreply, henv, hplace⟩ := h
  rw [Command.on_run, hreply]
  dsimp only
  rw [henv]
  dsimp only
  rw [on_withSettings, hplace]

/-- In a tree, all this is only looked up. -/
theorem Chooses.eq {env' : Environment} {place : Option Place} {t t' : Tree}
    (h : Chooses env args t env' place rest t') : t = t' := by
  obtain ⟨hreply, henv, hplace⟩ := h
  obtain rfl := Access.eq_of_on hreply
  obtain rfl := Access.eq_of_on henv
  exact Access.eq_of_on hplace

/-- **What a run comes to**: its arguments are no call, or its environment cannot be
completed, or its settings are refused, or it is a search. -/
inductive Runs (env : Environment) (stamp : String) (args : List String) (s : σ) :
    Outcome × σ → Prop
  | help {page : String} {s' : σ}
      (hreply : (Surroundings.readGroup args).on s = (.help page, s')) :
      Runs env stamp args s (.printed page, s')
  | misused {screen : String} {s' : σ}
      (hreply : (Surroundings.readGroup args).on s = (.misuse screen, s')) :
      Runs env stamp args s (.misused screen, s')
  | crashed {c : Crash} {s' : σ}
      (hreply : (Surroundings.readGroup args).on s = (.crashed c, s')) :
      Runs env stamp args s (.escaped (.arguments c), s')
  | incomplete {call : GroupCall} {c : Crash} {s₁ s₂ : σ}
      (hreply : (Surroundings.readGroup args).on s = (.call call, s₁))
      (henv : (Surroundings.environment env).on s₁ = (.error c, s₂)) :
      Runs env stamp args s (.escaped (.environment c), s₂)
  | refused {env' : Environment} {place : Option Place} {rest : List String} {s' : σ}
      {e : ConfigError} (hchooses : Chooses env args s env' place rest s')
      (hread : Settings.ofDocuments Surroundings.document env' Settings.builtIn place = .error e) :
      Runs env stamp args s
        (if isMisuse e then .misused (Surroundings.refusal e.message) else .escaped (.config e), s')
  | searched {env' : Environment} {place : Option Place} {rest : List String} {s' : σ}
      {settings : Settings} (hchooses : Chooses env args s env' place rest s')
      (hread : Settings.ofDocuments Surroundings.document env' Settings.builtIn place =
        .ok settings) :
      Runs env stamp args s ((runSearch settings stamp rest).on s')

theorem runs (env : Environment) (stamp : String) (args : List String) (s : σ) :
    Runs env stamp args s ((run env stamp args).on s) := by
  rw [on_run]
  generalize hreply : (Surroundings.readGroup args).on s = r
  obtain ⟨reply, s₁⟩ := r
  cases reply with
  | help => exact .help hreply
  | misuse => exact .misused hreply
  | crashed => exact .crashed hreply
  | call call =>
    dsimp only
    generalize henv : (Surroundings.environment env).on s₁ = r
    obtain ⟨completed, s₂⟩ := r
    cases completed with
    | error c => exact .incomplete hreply henv
    | ok env' =>
      dsimp only
      rw [on_withSettings]
      generalize hplace : (lookAtConfig call.config).on s₂ = r
      obtain ⟨place, s₃⟩ := r
      have hchooses : Chooses env args s env' place call.rest s₃ := ⟨hreply, henv, hplace⟩
      dsimp only
      cases hread : Settings.ofDocuments Surroundings.document env' Settings.builtIn place with
      | error e => exact .refused hchooses hread
      | ok settings => exact .searched hchooses hread

end Bibliography.Command
