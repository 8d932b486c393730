import Bibliography.Proofs.Fallible
import Bibliography.Proofs.Log.File
import Bibliography.Settings.Document
/-!
# Settings as they are written

Settings can be written out, section by section (`toMembers`), and names are
written in the form that they are read in. What is read comes to settings where
every section is read as these settings have it and nothing in them is refused
(`ofMembers_eq_ok_iff`), so settings that are accepted are read back from what is
written of them (`ofMembers_toMembers`). The built-in document is what the usual
settings are written as (`ofDocument_builtIn`).
-/

namespace Bibliography

/-! ## Checks -/

/-- What log settings are before their values are checked. -/
def LogSettings.draft (log : LogSettings) : Settings.LogDraft :=
  ⟨log.level.name, log.toFile, log.directory⟩

/-- What search settings are before their values are checked. -/
def SearchSettings.draft (search : SearchSettings) : Settings.SearchDraft :=
  ⟨search.sort, search.order, search.limit⟩

namespace Settings

/-- **What is asked of settings.** -/
structure Allowed (s : Settings) : Prop where
  /-- Messages go to a file only where its directory has a name. -/
  directory : s.log.toFile = true → ¬ isBlankText s.log.directory
  path : ¬ isBlankText s.library.path

section Checks

variable {env : Environment} {root : Json.Members} {s : Settings}
variable {log : LogSettings} {library library' : LibrarySettings} {search : SearchSettings}
variable {logDraft : LogDraft} {searchDraft : SearchDraft}

theorem checkLog_eq_ok_iff :
    checkLog logDraft = .ok log ↔
      logDraft = log.draft ∧ (log.toFile = true → ¬ isBlankText log.directory) := by
  obtain ⟨name, toFile, directory⟩ := logDraft
  obtain ⟨level, toFile', directory'⟩ := log
  simp only [checkLog, LogSettings.draft, LogDraft.mk.injEq, ← Log.ofName?_eq_some_iff]
  cases Log.Level.ofName? name with
  | none => simp [throw, throwThe, MonadExceptOf.throw]
  | some level' =>
    dsimp only
    split
    · next hnowhere =>
      rw [Bool.and_eq_true] at hnowhere
      refine ⟨fun h => (by cases h), ?_⟩
      rintro ⟨⟨-, rfl, rfl⟩, hdirectory⟩
      exact absurd hnowhere.2 (hdirectory hnowhere.1)
    · next hplace =>
      have hplace' : toFile = true → ¬ isBlankText directory := by simpa using hplace
      simp only [pure, Except.pure, Except.ok.injEq, LogSettings.mk.injEq, Option.some.injEq]
      refine ⟨?_, And.left⟩
      rintro ⟨rfl, rfl, rfl⟩
      exact ⟨⟨rfl, rfl, rfl⟩, hplace'⟩

theorem checkLibrary_eq_ok_iff :
    checkLibrary library = .ok library' ↔ library = library' ∧ ¬ isBlankText library'.path := by
  unfold checkLibrary
  split
  · next hblank =>
    refine ⟨fun h => (by cases h), ?_⟩
    rintro ⟨rfl, hpath⟩
    exact absurd hblank hpath
  · next hpath =>
    rw [Except.ok.injEq]
    refine ⟨?_, And.left⟩
    rintro rfl
    exact ⟨rfl, hpath⟩

theorem checkSearch_eq_ok_iff :
    checkSearch searchDraft = .ok search ↔ searchDraft = search.draft := by
  obtain ⟨sort, order, limit⟩ := searchDraft
  obtain ⟨sort', order', limit'⟩ := search
  simp only [checkSearch, SearchSettings.draft, SearchDraft.mk.injEq]
  split
  · next hnegative =>
    refine ⟨fun h => (by cases h), ?_⟩
    rintro ⟨-, -, rfl⟩
    omega
  · next hlimit =>
    have hlimit' : limit.toNat = limit' ↔ limit = limit' := by omega
    simp only [Except.ok.injEq, SearchSettings.mk.injEq, hlimit']

/-- **What is read comes to settings** where every section is read as they have it
and they are allowed. -/
theorem ofMembers_eq_ok_iff :
    ofMembers env root = .ok s ↔
      (readLog root = .ok s.log.draft ∧ readLibrary env root = .ok s.library ∧
        readSearch root = .ok s.search.draft ∧ readOutput root = .ok s.output) ∧ s.Allowed := by
  simp only [ofMembers, bind_eq_ok_iff, checkLog_eq_ok_iff, checkLibrary_eq_ok_iff,
    checkSearch_eq_ok_iff, pure, Except.pure, Except.ok.injEq]
  constructor
  · rintro ⟨_, hlog, _, hlibrary, _, hsearch, _, houtput, _, ⟨rfl, hdirectory⟩, _, ⟨rfl, hpath⟩,
      _, rfl, rfl⟩
    exact ⟨⟨hlog, hlibrary, hsearch, houtput⟩, hdirectory, hpath⟩
  · rintro ⟨⟨hlog, hlibrary, hsearch, houtput⟩, hdirectory, hpath⟩
    exact ⟨_, hlog, _, hlibrary, _, hsearch, _, houtput, _, ⟨rfl, hdirectory⟩, _, ⟨rfl, hpath⟩,
      _, rfl, rfl⟩

end Checks

/-! ## Writing out -/

/-- What settings are written as. -/
def toMembers (s : Settings) : Json.Members :=
  [("log", .obj [("level", .str s.log.level.name), ("to_file", .bool s.log.toFile),
      ("dir", .str s.log.directory)]),
    ("library", .obj [("path", .str s.library.path), ("path_env", .str s.library.pathVariable)]),
    ("search", .obj [("sort", .str s.search.sort.name), ("order", .str s.search.order.name),
      ("limit", .int s.search.limit)]),
    ("output", .obj [("format", .str s.output.format.name), ("base_dir", .str s.output.baseDir)])]

section Names

variable {α : Type} {all : List α} {name : α → String} {a fallback : α} {setting : String}
variable {s : Section}

theorem plainName_criterion (c : Order.Criterion) : lowered (stripped c.name) = c.name := by
  rcases c with f | _
  · cases f <;> decide +kernel
  · decide +kernel

theorem ofName_criterion (c : Order.Criterion) : Order.Criterion.ofName c.name = .ok c := by
  rcases c with f | _
  · cases f <;> rfl
  · rfl

/-- A name that is written as it is read is read back. -/
theorem Section.choice_eq (hvalue : s.value setting (.str (name fallback)) = .str (name a))
    (hplain : lowered (stripped (name a)) = name a)
    (hfind : all.find? (name · == name a) = some a) :
    s.choice setting all name fallback = .ok a := by
  have hname : s.choiceName setting (name fallback) = .ok (name a) := by
    rw [choiceName, text, hvalue, map_eq_ok_iff]
    exact ⟨_, rfl, hplain⟩
  rw [choice, bind_eq_ok_iff]
  exact ⟨_, hname, by rw [hfind]; rfl⟩

end Names

section Reading

variable {s : Settings} {env : Environment}

theorem readLog_toMembers : readLog s.toMembers = .ok s.log.draft := by
  have hread : readLog s.toMembers =
      .ok ⟨uppered s.log.level.name, s.log.toFile, s.log.directory⟩ := rfl
  rw [hread, Log.uppered_name]
  rfl

theorem readLibrary_toMembers :
    readLibrary env s.toMembers =
      .ok ⟨(pathFrom env s.library.pathVariable).getD s.library.path, s.library.pathVariable⟩ :=
  rfl

theorem readSearch_toMembers : readSearch s.toMembers = .ok s.search.draft := by
  have hsort : Order.Criterion.ofName (lowered (stripped s.search.sort.name)) =
      .ok s.search.sort := by
    rw [plainName_criterion, ofName_criterion]
  simp only [readSearch, bind_eq_ok_iff, mapError_eq_ok_iff]
  refine ⟨_, rfl, _, rfl, _, hsort, _, Section.choice_eq rfl ?_ ?_, _, rfl, rfl⟩
  · cases s.search.order <;> decide +kernel
  · cases s.search.order <;> rfl

theorem readOutput_toMembers : readOutput s.toMembers = .ok s.output := by
  simp only [readOutput, bind_eq_ok_iff]
  refine ⟨_, rfl, _, Section.choice_eq rfl ?_ ?_, _, rfl, rfl⟩
  · cases s.output.format <;> decide +kernel
  · cases s.output.format <;> rfl

/-- **Settings are read back from what is written of them**, with the path that the
environment gives if it gives one. -/
theorem ofMembers_toMembers (hallowed : s.Allowed)
    (hpath : (pathFrom env s.library.pathVariable).getD s.library.path = s.library.path) :
    ofMembers env s.toMembers = .ok s := by
  have hlibrary : readLibrary env s.toMembers = .ok s.library := by
    rw [readLibrary_toMembers, hpath]
  exact ofMembers_eq_ok_iff.2
    ⟨⟨readLog_toMembers, hlibrary, readSearch_toMembers, readOutput_toMembers⟩, hallowed⟩

end Reading

/-! ## The usual settings -/

/-- The settings where nothing else is asked for. -/
def defaults : Settings where
  log := ⟨.warning, false, "log"⟩
  library := ⟨"library.json", "REFSEARCH_LIBRARY"⟩
  search := ⟨.relevance, .descending, 0⟩
  output := ⟨.pretty, ""⟩

/-- Whether members are what the usual settings are written as. -/
def isUsual : Json.Members → Bool
  | [("log", .obj [("level", .str "WARNING"), ("to_file", .bool false), ("dir", .str "log")]),
      ("library", .obj [("path", .str "library.json"), ("path_env", .str "REFSEARCH_LIBRARY")]),
      ("search", .obj [("sort", .str "relevance"), ("order", .str "desc"), ("limit", .int 0)]),
      ("output", .obj [("format", .str "pretty"), ("base_dir", .str "")])] => true
  | _ => false

theorem eq_of_isUsual {members : Json.Members} (h : isUsual members) :
    members = defaults.toMembers := by
  unfold isUsual at h
  split at h
  · rfl
  · cases h

/-- **The built-in document holds the usual settings.** -/
theorem ofDocument_builtIn : ofDocument builtIn = .ok defaults.toMembers := by
  -- values have no decidable equality, so the members are compared by their pattern
  have hread : (ofDocument builtIn).toOption.any isUsual := by decide +kernel
  cases h : ofDocument builtIn with
  | ok members =>
    rw [h] at hread
    rw [eq_of_isUsual hread]
  | error e =>
    rw [h] at hread
    cases hread

end Settings

end Bibliography
