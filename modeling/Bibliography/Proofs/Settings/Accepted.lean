import Bibliography.Proofs.Search.Arrangement
import Bibliography.Proofs.Settings.Written
/-!
# Accepted settings

A search, a writer and a log are given names, and each of them looks these up in
a table of its own. Settings are read through tables as well, in any case and
with white space around some of their names. `Usable` says that nothing is lost
between them, and `usable_of_ofMembers` that this is so whenever settings are
accepted; these are then the ones that are read again when they are written out.
`exists_ofMembers_iff` tells which settings are accepted at all.
-/

namespace Bibliography.Settings

variable {env : Environment} {root : Json.Members} {s : Settings} {library : LibrarySettings}

/-- The path of a library is that of the environment, if the environment has one. -/
theorem getD_pathFrom_of_readLibrary (h : readLibrary env root = .ok library) :
    (pathFrom env library.pathVariable).getD library.path = library.path := by
  simp only [readLibrary, bind_eq_ok_iff] at h
  obtain ⟨_, -, variableName, -, path, -, hread⟩ := h
  obtain rfl := Except.ok.inj hread
  cases pathFrom env variableName <;> rfl

/-- **Which settings are accepted in an environment**: those that are allowed and
leave the path of the library to the environment. -/
theorem exists_ofMembers_iff :
    (∃ root, ofMembers env root = .ok s) ↔
      s.Allowed ∧ (pathFrom env s.library.pathVariable).getD s.library.path = s.library.path := by
  constructor
  · rintro ⟨root, hread⟩
    obtain ⟨⟨-, hlibrary, -, -⟩, hallowed⟩ := ofMembers_eq_ok_iff.1 hread
    exact ⟨hallowed, getD_pathFrom_of_readLibrary hlibrary⟩
  · rintro ⟨hallowed, hpath⟩
    exact ⟨s.toMembers, ofMembers_toMembers hallowed hpath⟩

/-- **Settings that can be used**: whoever is given their names and numbers takes
them for what they are. -/
structure Usable (s : Settings) : Prop where
  /-- A search accepts them, whatever is searched for and however many records are
  skipped. -/
  plan : ∀ (query : String) (offset : Int), 0 ≤ offset →
    Request.plan ⟨query, s.search.sort.name, s.search.order.name, s.search.limit, offset⟩ =
      .ok ⟨query, s.search.sort, s.search.order, s.search.limit, offset⟩
  /-- There is a writer for the format. -/
  format : Output.Format.ofName? s.output.format.name = some s.output.format
  /-- A log that is set up with the level has its number as the threshold of the
  terminal. -/
  terminal : ∀ (request : LogRequest) (stamp : String) (log : Log) (t : Tree),
    request.level = some s.log.level.name →
      ((Log.configure request stamp log).onTree t).1.2.terminal = some s.log.level.number
  path : ¬ isBlankText s.library.path

theorem Allowed.usable (h : s.Allowed) : s.Usable where
  plan query offset hoffset := by
    have horder : Order.Direction.ofName s.search.order.name = .ok s.search.order := by
      cases s.search.order <;> rfl
    exact plan_eq_ok_iff.2 ⟨_, _, ofName_criterion _, horder,
      ⟨Int.natCast_nonneg s.search.limit, hoffset⟩, rfl⟩
  format := by cases s.output.format <;> rfl
  terminal request stamp log t hlevel := by
    have hthreshold : Log.threshold request.level = .ok s.log.level.number := by
      rw [hlevel, Log.threshold_name]
    exact Log.terminal_configure hthreshold t
  path := h.path

/-- **Settings that are accepted can be used, and are read again as they are.** -/
theorem usable_of_ofMembers (h : ofMembers env root = .ok s) :
    s.Usable ∧ ofMembers env s.toMembers = .ok s := by
  obtain ⟨hallowed, hpath⟩ := exists_ofMembers_iff.1 ⟨root, h⟩
  exact ⟨hallowed.usable, ofMembers_toMembers hallowed hpath⟩

/-- Short names in any case, blanks around them and a path from the environment. -/
theorem usable_of_ofMembers_terse :
    let env : Environment := fun name =>
      if name = "REFSEARCH_LIBRARY" then some " shared.json\n" else none
    let root : Json.Members :=
      [("log", .obj [("level", .str "debug")]), ("library", .obj [("path", .str "")]),
        ("search", .obj [("sort", .str " PUB\n"), ("order", .str "Asc"), ("limit", .int 3)]),
        ("output", .null)]
    let s : Settings := ⟨⟨.debug, false, "log"⟩, ⟨"shared.json", "REFSEARCH_LIBRARY"⟩,
      ⟨.field .published, .ascending, 3⟩, ⟨.pretty, ""⟩⟩
    ofMembers env root = .ok s ∧ s.Usable ∧ ofMembers env s.toMembers = .ok s := by
  intro env root s
  have hread : ofMembers env root = .ok s := by decide +kernel
  exact ⟨hread, usable_of_ofMembers hread⟩

end Bibliography.Settings
