import Bibliography.Command.Options
import Bibliography.Proofs.Command.Run
import Bibliography.Proofs.Settings.Layers
/-!
# What leaves the command line, and what a failure leaves behind

Around a search nothing is caught but some of what can be wrong with settings. So an
error leaves the command line where its surroundings crash before the search, where
the settings cannot be read for a reason that nobody is prepared for, and where the
file of the log cannot be opened (`ending_eq_escaped_iff`); this holds of any
surroundings and any files. In a tree, a command that does not end well has printed
nothing, and has written to no file but that of its log (`code_eq_zero_or_keeps`).
-/

namespace Bibliography.Command

variable {σ : Type} [Files σ] {s : σ} {t : Tree} {env : Environment} {stamp : String}
  {args rest words : List String} {settings : Settings} {options : SearchOptions} {x : Escape}

/-! ## Refused settings -/

/-- **Errors in reading settings that nobody is prepared for**: a crash, and a file that
is not there or that the system does not let be read. -/
inductive Unprepared : ConfigError → Prop
  | crashed (c : Crash) : Unprepared (.document (.crashed c))
  | missing : Unprepared (.file .missing)
  | directory : Unprepared (.file .directory)
  | barred {e : FileError} (hname : ∀ reason, e.obstacle ≠ .noName reason) :
      Unprepared (.file (.barred e))

theorem isMisuse_eq_false_iff {e : ConfigError} : isMisuse e = false ↔ Unprepared e := by
  constructor
  · intro h
    unfold isMisuse at h
    split at h
    · cases h
    · exact .crashed _
    · cases h
    · cases h
    · next r hnotText hnoName =>
      cases r with
      | missing => exact .missing
      | directory => exact .directory
      | notText => exact absurd rfl hnotText
      | barred e =>
        obtain ⟨obstacle, path⟩ := e
        refine .barred ?_
        rintro reason rfl
        exact hnoName reason path rfl
    · cases h
    · cases h
  · intro h
    cases h with
    | crashed | missing | directory => rfl
    | @barred e hname =>
      obtain ⟨obstacle, path⟩ := e
      cases obstacle with
      | noName reason => exact absurd rfl (hname reason)
      | _ => rfl

/-- Settings that are refused without a wrong use have not been read at all. -/
theorem Unprepared.unreadable {load : String → Except Yaml.LoadFault Json} {first : String}
    {second : Option Place} {e : ConfigError} (he : Unprepared e)
    (h : Settings.ofDocuments load env first second = .error e) :
    Settings.Unreadable load first second e := by
  rcases Settings.ofDocuments_eq_error h with hunreadable | rfl | ⟨_, rfl⟩
  · exact hunreadable
  · cases he
  · cases he

/-! ## The file of the log -/

/-- **The file of the log of a search cannot be opened.** -/
def LogRefused (settings : Settings) (stamp : String) (s : σ) (e : FileError) : Prop :=
  settings.log.toFile = true ∧
    ((Log.openFile (logRequest settings) searchName stamp).on s).1 = .error e

theorem fileAction?_logRequest : Log.fileAction? (logRequest settings) =
    if settings.log.toFile then some searchName else none :=
  rfl

theorem eq_searchName_of_fileAction? {action : String}
    (h : Log.fileAction? (logRequest settings) = some action) :
    settings.log.toFile = true ∧ action = searchName := by
  rw [fileAction?_logRequest] at h
  split at h
  · next hfile => exact ⟨hfile, (Option.some.inj h).symm⟩
  · cases h

section Escaping

variable [Surroundings]

/-- An error leaves a search where the file of its log cannot be opened, and
nowhere else. -/
theorem searched_eq_escaped_iff :
    (searched settings options words stamp s).1.ending = .escaped x ↔
      ∃ e, LogRefused settings stamp s e ∧ x = .log (.file e) := by
  have hconfigured := Log.configured (logRequest settings) stamp .fresh s
  unfold searched LogRefused
  rw [after_searchSession]
  generalize (Log.configure (logRequest settings) stamp .fresh).on s = r at hconfigured ⊢
  have hlogged : ∀ path log (s' : σ),
      ((loggedSearch settings options words stamp path).after { log } s').1.1 ≠ .escaped x := by
    intro path log s' h
    rcases ending_loggedSearch path { log } s' with hending | hending
    · cases hending.symm.trans h
    · cases hending.symm.trans h
  cases hconfigured with
  | reserved hthreshold => cases hthreshold.symm.trans (Log.threshold_name settings.log.level)
  | unfiled _ haction =>
    refine iff_of_false (hlogged _ _ _) ?_
    rintro ⟨e, ⟨htoFile, -⟩, -⟩
    rw [fileAction?_logRequest, if_pos htoFile] at haction
    cases haction
  | refused _ haction hopen =>
    obtain ⟨htoFile, rfl⟩ := eq_searchName_of_fileAction? haction
    rw [hopen]
    constructor
    · intro h
      exact ⟨_, ⟨htoFile, rfl⟩, (Ending.escaped.inj h).symm⟩
    · rintro ⟨e, ⟨-, he⟩, rfl⟩
      rw [Except.error.inj he]
  | filed _ haction hopen =>
    obtain ⟨-, rfl⟩ := eq_searchName_of_fileAction? haction
    refine iff_of_false (hlogged _ _ _) ?_
    rintro ⟨e, ⟨-, he⟩, -⟩
    rw [hopen] at he
    cases he

/-! ## What leaves the command line -/

/-- **What leaves the search command**: a crash in reading its arguments, or the refusal
to open the file of its log. -/
inductive SearchEscapes (settings : Settings) (stamp : String) (rest : List String) (s : σ) :
    Escape → Prop
  | arguments {c : Crash} {s' : σ}
      (hreply : (Surroundings.readSearch resolveSort rest).on s = (.crashed c, s')) :
      SearchEscapes settings stamp rest s (.arguments c)
  | log {call : SearchCall} {e : FileError} {s' : σ}
      (hreply : (Surroundings.readSearch resolveSort rest).on s = (.call call, s'))
      (hrefused : LogRefused settings stamp s' e) :
      SearchEscapes settings stamp rest s (.log (.file e))

theorem runSearch_eq_escaped_iff :
    ((runSearch settings stamp rest).on s).1.ending = .escaped x ↔
      SearchEscapes settings stamp rest s x := by
  rw [on_runSearch]
  constructor
  · intro h
    generalize hreply : (Surroundings.readSearch resolveSort rest).on s = r at h
    obtain ⟨reply, s'⟩ := r
    cases reply with
    | call call =>
      obtain ⟨e, hrefused, rfl⟩ := searched_eq_escaped_iff.1 h
      exact .log hreply hrefused
    | help | misuse => cases h
    | crashed c =>
      obtain rfl := Ending.escaped.inj h
      exact .arguments hreply
  · intro h
    cases h with
    | arguments hreply =>
      rw [hreply]
      rfl
    | log hreply hrefused =>
      rw [hreply]
      exact searched_eq_escaped_iff.2 ⟨_, hrefused, rfl⟩

/-- **What leaves the command line**: a crash in reading its arguments or completing its
environment, an error in reading its settings that nobody is prepared for, and what
leaves the search command. -/
inductive Escapes (env : Environment) (stamp : String) (args : List String) (s : σ) :
    Escape → Prop
  | arguments {c : Crash} {s' : σ}
      (hreply : (Surroundings.readGroup args).on s = (.crashed c, s')) :
      Escapes env stamp args s (.arguments c)
  | environment {call : GroupCall} {c : Crash} {s₁ s₂ : σ}
      (hreply : (Surroundings.readGroup args).on s = (.call call, s₁))
      (henv : (Surroundings.environment env).on s₁ = (.error c, s₂)) :
      Escapes env stamp args s (.environment c)
  | config {env' : Environment} {place : Option Place} {rest : List String} {s' : σ}
      {e : ConfigError} (hchooses : Chooses env args s env' place rest s')
      (hunreadable : Settings.Unreadable Surroundings.document Settings.builtIn place e)
      (he : Unprepared e) : Escapes env stamp args s (.config e)
  | search {env' : Environment} {place : Option Place} {rest : List String} {s' : σ}
      {settings : Settings} {x : Escape} (hchooses : Chooses env args s env' place rest s')
      (hread : Settings.ofDocuments Surroundings.document env' Settings.builtIn place =
        .ok settings)
      (hsearch : SearchEscapes settings stamp rest s' x) : Escapes env stamp args s x

/-- **An error leaves the command line in these ways only**; otherwise a command
ends well, is used wrongly or is given up. -/
theorem ending_eq_escaped_iff :
    ((run env stamp args).on s).1.ending = .escaped x ↔ Escapes env stamp args s x := by
  constructor
  · intro h
    have hruns := runs env stamp args s
    generalize (run env stamp args).on s = r at h hruns
    cases hruns with
    | help | misused => cases h
    | crashed hreply =>
      obtain rfl := Ending.escaped.inj h
      exact .arguments hreply
    | incomplete hreply henv =>
      obtain rfl := Ending.escaped.inj h
      exact .environment hreply henv
    | @refused _ _ _ _ e hchooses hread =>
      dsimp only at h
      split at h
      · cases h
      · next hmisuse =>
        obtain rfl := Ending.escaped.inj h
        have he : Unprepared e := isMisuse_eq_false_iff.1 (by simpa using hmisuse)
        exact .config hchooses (he.unreadable hread) he
    | searched hchooses hread =>
      exact .search hchooses hread (runSearch_eq_escaped_iff.1 h)
  · intro h
    cases h with
    | arguments hreply =>
      rw [on_run, hreply]
      rfl
    | environment hreply henv =>
      rw [on_run, hreply]
      dsimp only
      rw [henv]
      rfl
    | config hchooses hunreadable he =>
      rw [hchooses.on_run, hunreadable.ofDocuments_eq]
      dsimp only
      rw [isMisuse_eq_false_iff.2 he]
      rfl
    | search hchooses hread hsearch =>
      rw [hchooses.on_run, hread]
      exact runSearch_eq_escaped_iff.2 hsearch

end Escaping

/-- A bracket that nothing closes leaves the command line. -/
theorem escaped_openBracket :
    letI := Surroundings.onDay ⟨2024, 2, 29⟩
    ((run (fun _ => none) "" ["--config", "c.yml", "search", "x"]).onTree
      ⟨[(⟨"", ["c.yml"]⟩, some "a: [".toUTF8)]⟩).1.ending =
        .escaped (.config (.document (.crashed ⟨"YAMLError", "the text is no document"⟩))) := by
  decide +kernel

/-! ## What a failure leaves behind -/

section Failing

variable [Surroundings]

/-- **The file of the log that a command line asks for.** -/
def LogsTo (env : Environment) (stamp : String) (args : List String) (t : Tree) (q : Path) : Prop :=
  ∃ env' place rest t' settings, Chooses env args t env' place rest t' ∧
    Settings.ofDocuments Surroundings.document env' Settings.builtIn place = .ok settings ∧
    settings.log.toFile = true ∧ q = (logFile settings stamp).target

/-- A search that does not come to its end has printed nothing, and has written
to no file but that of its log. -/
theorem finished_or_keeps_searched :
    (searched settings options words stamp t).1.ending = .finished ∨
      (searched settings options words stamp t).1.out = "" ∧
        t.Keeps (Log.WouldFile (logRequest settings) stamp)
          (searched settings options words stamp t).2 := by
  have hconfigured := Log.configured (logRequest settings) stamp .fresh t
  unfold searched
  rw [after_searchSession]
  have hkeeps := hconfigured.keeps
  have hwould := fun q => hconfigured.wouldFile (q := q)
  generalize (Log.configure (logRequest settings) stamp .fresh).on t = r
    at hconfigured hkeeps hwould ⊢
  obtain ⟨⟨path, log⟩, t'⟩ := r
  cases path with
  | error e => exact .inr ⟨rfl, hkeeps⟩
  | ok path =>
    -- once the log is set up, the rest of the search writes to the file of the log alone
    refine (endsQuietly_loggedSearch path { log } t').imp id ?_
    rintro ⟨-, hout, hafter⟩
    exact ⟨hout, hkeeps.trans (hafter.mono hwould)⟩

theorem code_eq_zero_or_keeps_runSearch :
    ((runSearch settings stamp rest).on t).1.ending.code = 0 ∨
      ((runSearch settings stamp rest).on t).1.out = "" ∧
        t.Keeps (Log.WouldFile (logRequest settings) stamp)
          ((runSearch settings stamp rest).on t).2 := by
  rw [on_runSearch]
  cases hreply : (Surroundings.readSearch resolveSort rest).on t with
  | mk reply t' =>
    obtain rfl := Access.eq_of_on hreply
    cases reply with
    | call call => exact finished_or_keeps_searched.imp_left fun h => by rw [h, Ending.code]
    | help => exact .inl rfl
    | misuse | crashed => exact .inr ⟨rfl, .refl t⟩

/-- **A command that does not end well has printed nothing**, and has written to
no file but that of the log which it asks for. -/
theorem code_eq_zero_or_keeps :
    ((run env stamp args).onTree t).1.ending.code = 0 ∨
      ((run env stamp args).onTree t).1.out = "" ∧
        t.Keeps (LogsTo env stamp args t) ((run env stamp args).onTree t).2 := by
  have hruns := runs env stamp args t
  rw [Access.onTree]
  generalize (run env stamp args).on t = r at hruns ⊢
  cases hruns with
  | help => exact .inl rfl
  | misused hreply | crashed hreply =>
    obtain rfl := Access.eq_of_on hreply
    exact .inr ⟨rfl, .refl t⟩
  | incomplete hreply henv =>
    obtain rfl := Access.eq_of_on hreply
    obtain rfl := Access.eq_of_on henv
    exact .inr ⟨rfl, .refl t⟩
  | refused hchooses =>
    obtain rfl := hchooses.eq
    dsimp only
    split
    · exact .inr ⟨rfl, .refl t⟩
    · exact .inr ⟨rfl, .refl t⟩
  | @searched env' place rest _ settings hchooses hread =>
    obtain rfl := hchooses.eq
    refine code_eq_zero_or_keeps_runSearch.imp_right fun h => ⟨h.1, h.2.mono ?_⟩
    rintro q ⟨action, haction, rfl⟩
    obtain ⟨htoFile, rfl⟩ := eq_searchName_of_fileAction? haction
    exact ⟨env', place, rest, t, settings, hchooses, hread, htoFile, rfl⟩

end Failing

/-- A log may be kept where pages are saved. -/
theorem aborted_logBesidePages :
    letI := Surroundings.onDay ⟨2024, 2, 29⟩
    let text := "log:\n  to_file: true\n  dir: out/json\noutput:\n  base_dir: out"
    let args := ["--config", "c.yml", "search", "x", "--output", "json"]
    let r := (run (fun _ => none) "" args).onTree ⟨[(⟨"", ["c.yml"]⟩, some text.toUTF8)]⟩
    (Settings.ofDocuments Yaml.load (fun _ => none) Settings.builtIn (some (.file text.toUTF8))).map
        (·.output.baseDir) = .ok "out" ∧
      r.1.ending = .aborted ∧
      (r.2.entry ⟨"", ["out", "json", "search", "search_.log"]⟩).text = .ok
        ("[DEBG] Writing log file out/json/search/search_.log\n" ++
          "[ERRO] Search failed: Library file not found: library.json\n") := by
  decide +kernel

end Bibliography.Command
