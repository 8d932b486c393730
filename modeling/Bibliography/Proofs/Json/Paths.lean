import Bibliography.Proofs.Json.Overlay
/-!
# What stands at a path of keys

Objects within objects are a tree, and at the end of a path of keys stands a leaf
or another object. An overlay takes its leaves from both trees: all of the upper
one, and those of the lower one at paths where the upper one says nothing
(`leafAt_overlay_iff`). What comes out names every key once, as what went in does
(`DistinctKeys.laidOver`), and the same laid over it again is not seen
(`laidOver_laidOver`).
-/

namespace Bibliography.Json

/-- What stands at a path of keys. -/
def at? : List String → Json → Option Json
  | [], value => some value
  | key :: path, value => (value.get? key).bind (at? path)

/-- **A leaf stands at a path**: a value that is no object. -/
def LeafAt (value : Json) (path : List String) (leaf : Json) : Prop :=
  value.at? path = some leaf ∧ leaf.obj? = none

/-- **Nothing is said at a path**: nothing stands there, and on the way to it there
are objects or nothing. -/
def SilentAt (value : Json) (path : List String) : Prop :=
  value.at? path = none ∧
    ∀ before, before <+: path → before ≠ path →
      ∀ v, value.at? before = some v → ∃ members, v.obj? = some members

section Paths

variable {value leaf upper : Json} {key : String} {path : List String} {lower : Option Json}
variable {members : Members}

theorem leafAt_nil_iff : LeafAt value [] leaf ↔ value = leaf ∧ leaf.obj? = none := by
  simp [LeafAt, at?]

theorem leafAt_cons_iff :
    LeafAt value (key :: path) leaf ↔ ∃ v, value.get? key = some v ∧ LeafAt v path leaf := by
  rw [LeafAt, at?, Option.bind_eq_some_iff]
  constructor
  · rintro ⟨⟨v, hv, hat⟩, hleaf⟩
    exact ⟨v, hv, hat, hleaf⟩
  · rintro ⟨v, hv, hat, hleaf⟩
    exact ⟨⟨v, hv, hat⟩, hleaf⟩

theorem not_silentAt_nil : ¬ SilentAt value [] := by
  simp [SilentAt, at?]

/-- Nothing is said at a path when the way goes on through an object, and nothing is
said there behind the first key. -/
theorem silentAt_cons_iff :
    SilentAt value (key :: path) ↔
      (∃ members, value.obj? = some members) ∧ ∀ v, value.get? key = some v → SilentAt v path := by
  constructor
  · rintro ⟨hnone, hway⟩
    refine ⟨hway [] List.nil_prefix (by simp) value rfl, fun v hv => ⟨?_, ?_⟩⟩
    · simpa [at?, hv] using hnone
    · intro before hbefore hne
      have hprefix : key :: before <+: key :: path := List.cons_prefix_cons.2 ⟨rfl, hbefore⟩
      have hlonger := hway (key :: before) hprefix (by simpa using hne)
      simpa [at?, hv] using hlonger
  · rintro ⟨hobj, hrest⟩
    refine ⟨?_, fun before hbefore hne w hw => ?_⟩
    · rw [at?, Option.bind_eq_none_iff]
      exact fun v hv => (hrest v hv).1
    · cases before with
      | nil =>
        obtain rfl : value = w := Option.some.inj hw
        exact hobj
      | cons k before =>
        rw [List.cons_prefix_cons] at hbefore
        obtain ⟨rfl, hbefore⟩ := hbefore
        obtain ⟨v, hv, hat⟩ := Option.bind_eq_some_iff.1 hw
        exact (hrest v hv).2 before hbefore (by simpa using hne) w hat

/-! ## Laying one value over another -/

/-- What lies over a value is an object when it was one. -/
theorem exists_laidOver_obj (lower : Option Json) (members : Members) :
    ∃ merged, laidOver lower (.obj members) = .obj merged := by
  cases lower with
  | none => exact ⟨members, rfl⟩
  | some lower =>
    cases lower with
    | obj below => exact ⟨_, laidOver_obj below members⟩
    | _ => exact ⟨members, laidOver_some_of_leaf rfl _⟩

/-- **What is under a key of an object that was laid over a value**, or over nothing. -/
theorem get?_laidOver_obj (hkeys : (members.map (·.1)).Nodup) (key : String)
    (lower : Option Json) :
    (laidOver lower (.obj members)).get? key =
      ((Members.get? key members).map (laidOver (lower.bind (get? key)))).or
        (lower.bind (get? key)) := by
  have hnone : (Members.get? key members).map (laidOver none) = Members.get? key members :=
    Option.map_id'
  cases lower with
  | none => simp [hnone, laidOver, get?]
  | some lower =>
    cases lower with
    | obj below =>
      rw [laidOver_obj]
      exact Members.get?_overlay hkeys key below
    | _ =>
      rw [laidOver_some_of_leaf rfl]
      simp [hnone, get?]

/-- A leaf of a value that was laid over another one is one of the upper value, or one
of the lower value where the upper one says nothing. -/
theorem leafAt_laidOver_iff (hupper : upper.DistinctKeys) (path : List String) (leaf : Json)
    (lower : Option Json) :
    LeafAt (laidOver lower upper) path leaf ↔
      LeafAt upper path leaf ∨
        (∃ below, lower = some below ∧ LeafAt below path leaf) ∧ SilentAt upper path := by
  induction path generalizing lower upper with
  | nil =>
    simp only [not_silentAt_nil, and_false, or_false, leafAt_nil_iff]
    cases hupper with
    | leaf hleaf => rw [laidOver_of_leaf hleaf]
    | @obj members =>
      -- both are objects, and neither is a leaf
      obtain ⟨merged, hmerged⟩ := exists_laidOver_obj lower members
      rw [hmerged]
      constructor <;> rintro ⟨rfl, hleaf⟩ <;> cases hleaf
  | cons key path ih =>
    cases hupper with
    | leaf hleaf =>
      rw [laidOver_of_leaf hleaf]
      simp [silentAt_cons_iff, hleaf]
    | @obj members hkeys hvalues =>
      have hbelow : (∃ below, lower = some below ∧ LeafAt below (key :: path) leaf) ↔
          ∃ v, lower.bind (get? key) = some v ∧ LeafAt v path leaf := by
        cases lower <;> simp [leafAt_cons_iff]
      rw [leafAt_cons_iff, leafAt_cons_iff, hbelow, silentAt_cons_iff,
        get?_laidOver_obj hkeys key lower]
      cases hkey : Members.get? key members with
      | none => simp [get?, obj?, hkey]
      | some v =>
        have hv := hvalues _ (Members.mem_of_get? hkey)
        simp [get?, obj?, hkey, ih hv]

/-! ## Laying it over again -/

/-- What is laid over a value again is not seen. -/
theorem laidOver_laidOver (hupper : upper.DistinctKeys) (lower : Option Json) :
    laidOver (some (laidOver lower upper)) upper = laidOver lower upper := by
  induction hupper generalizing lower with
  | leaf hleaf => rw [laidOver_of_leaf hleaf, laidOver_of_leaf hleaf]
  | @obj members hkeys hvalues ih =>
    obtain ⟨merged, hmerged⟩ := exists_laidOver_obj lower members
    rw [hmerged, laidOver_obj]
    refine congrArg obj (Members.overlay_eq_self fun m hm => ?_)
    have hseen := get?_laidOver_obj hkeys m.1 lower
    rw [hmerged, Members.get?_of_mem hkeys hm] at hseen
    have hthere : Members.get? m.1 merged = some (laidOver (lower.bind (get? m.1)) m.2) := hseen
    rw [hthere, ih m hm]

/-! ## Keys -/

/-- Members that are laid over an object one after the other leave its keys apart. -/
theorem distinctKeys_overlay {below : Members} (hbelow : DistinctKeys (.obj below))
    (hvalues : ∀ m ∈ members, ∀ lower : Option Json, (∀ l ∈ lower, l.DistinctKeys) →
      (laidOver lower m.2).DistinctKeys) :
    DistinctKeys (.obj (below.overlay members)) := by
  induction members generalizing below with
  | nil => rwa [Members.overlay_nil]
  | cons m rest ih =>
    obtain ⟨hm, hrest⟩ := List.forall_mem_cons.1 hvalues
    rw [Members.overlay_cons]
    refine ih ?_ hrest
    cases hbelow with
    | leaf hleaf => cases hleaf
    | obj hkeys hall =>
      refine .obj (Members.nodup_keys_put hkeys _ _) fun m' hm' => ?_
      rcases Members.mem_put hm' with rfl | hm'
      · exact hm _ fun l hl => hall _ (Members.mem_of_get? hl)
      · exact hall m' hm'

/-- **A value that was laid over another one names every key once**, if both do. -/
theorem DistinctKeys.laidOver (hupper : upper.DistinctKeys) (lower : Option Json)
    (hlower : ∀ l ∈ lower, l.DistinctKeys) : (laidOver lower upper).DistinctKeys := by
  induction hupper generalizing lower with
  | leaf hleaf =>
    rw [laidOver_of_leaf hleaf]
    exact .leaf hleaf
  | @obj members hkeys hvalues ih =>
    cases lower with
    | none => exact .obj hkeys hvalues
    | some lower =>
      cases lower with
      | obj below =>
        rw [laidOver_obj]
        exact distinctKeys_overlay (hlower _ rfl) ih
      | _ =>
        rw [laidOver_some_of_leaf rfl]
        exact .obj hkeys hvalues

end Paths

/-! ## One object over another -/

section Objects

variable {upper : Members}

/-- **An overlay keeps the right leaves.** Let the upper object name every key once,
and so the objects in it. At the end of each path of keys the overlay has the leaf
that the upper object has, or the leaf of the lower one where the upper one says
nothing, and it has no others. Laying the same over it again changes nothing, and
keys that were apart stay so. -/
theorem leafAt_overlay_iff (lower : Members) (hupper : (obj upper).DistinctKeys) :
    (∀ path leaf,
        LeafAt (obj (lower.overlay upper)) path leaf ↔
          LeafAt (obj upper) path leaf ∨
            LeafAt (obj lower) path leaf ∧ SilentAt (obj upper) path) ∧
      (lower.overlay upper).overlay upper = lower.overlay upper ∧
      ((obj lower).DistinctKeys → (obj (lower.overlay upper)).DistinctKeys) := by
  refine ⟨fun path leaf => ?_, ?_, fun hlower => ?_⟩
  · have hleaves := leafAt_laidOver_iff hupper path leaf (some (obj lower))
    rw [laidOver_obj] at hleaves
    simpa using hleaves
  · have hagain := laidOver_laidOver hupper (some (obj lower))
    rw [laidOver_obj, laidOver_obj] at hagain
    exact obj.inj hagain
  · have hkeys := hupper.laidOver (some (obj lower)) (by simpa using hlower)
    rwa [laidOver_obj] at hkeys

/-- A section of two settings, one with a setting in it, and a setting where a section
might be. -/
def lowerSections : Members :=
  [("log", .obj [("level", .str "info"), ("dir", .str "log")]),
    ("library", .obj [("path", .str "library.json")]), ("search", .null)]

/-- One of the two settings, a setting for a section, and sections where there is none
below. -/
def upperSections : Members :=
  [("log", .obj [("level", .str "debug")]), ("library", .bool false),
    ("search", .obj [("limit", .int 20)]), ("output", .obj [])]

/-- The other setting is kept, and what was in a section that is none any more is not. -/
theorem leafAt_overlay_iff_sections :
    (obj upperSections).DistinctKeys ∧
      LeafAt (obj (lowerSections.overlay upperSections)) ["log", "level"] (.str "debug") ∧
      LeafAt (obj (lowerSections.overlay upperSections)) ["log", "dir"] (.str "log") ∧
      (∀ leaf, ¬ LeafAt (obj (lowerSections.overlay upperSections)) ["library", "path"] leaf) ∧
      (lowerSections.overlay upperSections).overlay upperSections =
        lowerSections.overlay upperSections := by
  have hlog : (obj [("level", .str "debug")]).DistinctKeys :=
    .obj (by decide) (List.forall_mem_singleton.2 (.leaf rfl))
  have hsearch : (obj [("limit", .int 20)]).DistinctKeys :=
    .obj (by decide) (List.forall_mem_singleton.2 (.leaf rfl))
  have houtput : (obj []).DistinctKeys :=
    .obj List.nodup_nil (List.forall_mem_nil _)
  have hkeys : (obj upperSections).DistinctKeys := by
    refine .obj (by decide) ?_
    simp only [upperSections, List.forall_mem_cons]
    exact ⟨hlog, .leaf rfl, hsearch, houtput, List.forall_mem_nil _⟩
  have hsilent : SilentAt (obj upperSections) ["log", "dir"] := by
    refine silentAt_cons_iff.2 ⟨⟨_, rfl⟩, fun v hv => ?_⟩
    obtain rfl := Option.some.inj hv
    exact silentAt_cons_iff.2 ⟨⟨_, rfl⟩, fun v hv => nomatch hv⟩
  obtain ⟨hleaves, hagain, -⟩ := leafAt_overlay_iff lowerSections hkeys
  refine ⟨hkeys, (hleaves _ _).2 (.inl ⟨rfl, rfl⟩), (hleaves _ _).2 (.inr ⟨⟨rfl, rfl⟩, hsilent⟩),
    fun leaf hleaf => ?_, hagain⟩
  rcases (hleaves _ _).1 hleaf with ⟨hnone, -⟩ | ⟨-, -, hway⟩
  · cases hnone
  · -- the section is a setting above, and the way ends there
    obtain ⟨members, hmembers⟩ := hway ["library"] (by decide) (by decide) (.bool false) rfl
    cases hmembers

end Objects

end Bibliography.Json
