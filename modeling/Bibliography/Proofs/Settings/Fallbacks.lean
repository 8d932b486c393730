import Bibliography.Proofs.Json.Overlay
import Bibliography.Proofs.Settings.Layers
/-!
# Settings that are left out

What the built-in document says of a setting is what reading falls back to where
the setting is not there, except for the path of the library, which has to be
there. So most of the document can be left out, and what a file over it comes to
stays the same, the errors included (`exists_ofMembers_shorten_builtIn`).

Sections are compared by what they are read as (`SectionAlike`): either the same
stands in both places, or two objects that agree up to the fallbacks, or one such
object where the section may be missing. An overlay keeps sections alike
(`SectionAlike.overlay`), and nothing that is read tells them apart
(`ofMembers_congr`).
-/

namespace Bibliography.Settings

open Json.Members (AgreeUpTo get? mem_of_get?)

/-- What stands for a setting that is not there: what the usual settings say of it,
if it may be missing. -/
def fallback? (name key : String) : Option Json :=
  if name = "library" ∧ key = "path" then none
  else (get? name defaults.toMembers).bind (Json.get? key)

theorem fallback?_eq {name key : String} {members : Json.Members}
    (h : get? name defaults.toMembers = some (.obj members))
    (hkey : ¬ (name = "library" ∧ key = "path")) : fallback? name key = get? key members := by
  rw [fallback?, if_neg hkey, h]
  rfl

theorem obj?_of_fallback? {name key : String} {value : Json}
    (h : fallback? name key = some value) : value.obj? = none := by
  rw [fallback?] at h
  split at h
  · cases h
  · obtain ⟨v, hsection, hvalue⟩ := Option.bind_eq_some_iff.1 h
    have hsections : ∀ m ∈ defaults.toMembers, ∀ members, m.2 = .obj members →
        ∀ m ∈ members, m.2.obj? = none := by
      simp [defaults, toMembers, Json.obj?, -Prod.forall]
    cases v with
    | obj members =>
      exact hsections _ (mem_of_get? hsection) members rfl _ (mem_of_get? hvalue)
    | _ => cases hvalue

/-! ## Reading alike -/

/-- **Values that are the same to whoever reads a section**, which may be missing or
not. -/
inductive SectionAlike (name : String) (mayMiss : Prop) : Option Json → Option Json → Prop
  | same (value : Option Json) : SectionAlike name mayMiss value value
  | read {members members' : Json.Members} (h : AgreeUpTo (fallback? name) members members') :
      SectionAlike name mayMiss (some (.obj members)) (some (.obj members'))
  | missed {members : Json.Members} (hmiss : mayMiss)
      (h : AgreeUpTo (fallback? name) members []) :
      SectionAlike name mayMiss (some (.obj members)) none

section Reading

variable {α : Type} {name setting : String} {mayMiss : Prop} {value value' : Option Json}
variable {members members' root root' : Json.Members}

theorem SectionAlike.laidOver (h : SectionAlike name mayMiss value value') {upper : Json}
    (hupper : upper.DistinctKeys) :
    SectionAlike name mayMiss (some (Json.laidOver value upper))
      (some (Json.laidOver value' upper)) := by
  cases hupper with
  | leaf hleaf =>
    rw [Json.laidOver_of_leaf hleaf, Json.laidOver_of_leaf hleaf]
    exact .same _
  | @obj above hkeys _ =>
    cases h with
    | same => exact .same _
    | read h =>
      rw [Json.laidOver_obj, Json.laidOver_obj]
      exact .read (h.overlay (fun _ _ => obj?_of_fallback?) hkeys)
    | missed _ h =>
      rw [Json.laidOver_obj]
      refine .read fun key => ?_
      rw [h.overlay (fun _ _ => obj?_of_fallback?) hkeys key, Json.Members.get?_nil_overlay hkeys]

/-- **What is laid over sections keeps them alike.** -/
theorem SectionAlike.overlay
    (h : SectionAlike name mayMiss (get? name members) (get? name members'))
    {upper : Json.Members} (hupper : (Json.obj upper).DistinctKeys) :
    SectionAlike name mayMiss (get? name (members.overlay upper))
      (get? name (members'.overlay upper)) := by
  cases hupper with
  | leaf hleaf => cases hleaf
  | obj hkeys hvalues =>
    rw [Json.Members.get?_overlay hkeys, Json.Members.get?_overlay hkeys]
    cases habove : get? name upper with
    | none => exact h
    | some v => exact h.laidOver (hvalues _ (Json.Members.mem_of_get? habove))

theorem required_congr (h : SectionAlike name False (get? name root) (get? name root'))
    {f : Section → Except SettingsError α}
    (hf : ∀ members members', AgreeUpTo (fallback? name) members members' →
      f ⟨name, members⟩ = f ⟨name, members'⟩) :
    Section.required root name >>= f = Section.required root' name >>= f := by
  unfold Section.required Section.find?
  generalize get? name root = value at h
  generalize get? name root' = value' at h
  cases h with
  | same => rfl
  | read h => exact hf _ _ h
  | missed hmiss => exact hmiss.elim

theorem optional_congr (h : SectionAlike name mayMiss (get? name root) (get? name root'))
    {f : Section → Except SettingsError α}
    (hf : ∀ members members', AgreeUpTo (fallback? name) members members' →
      f ⟨name, members⟩ = f ⟨name, members'⟩) :
    Section.optional root name >>= f = Section.optional root' name >>= f := by
  unfold Section.optional Section.find?
  generalize get? name root = value at h
  generalize get? name root' = value' at h
  cases h with
  | same => rfl
  | read h => exact hf _ _ h
  | missed _ h => exact hf _ _ h

theorem value_congr (h : AgreeUpTo (fallback? name) members members') {fallback : Json}
    (hfallback : fallback? name setting = some fallback) :
    Section.value ⟨name, members⟩ setting fallback =
      Section.value ⟨name, members'⟩ setting fallback := by
  have hsetting := h setting
  rw [hfallback, Option.or_some, Option.or_some] at hsetting
  exact Option.some.inj hsetting

theorem text_congr (h : AgreeUpTo (fallback? name) members members') {fallback : String}
    (hfallback : fallback? name setting = some (.str fallback)) :
    Section.text ⟨name, members⟩ setting fallback =
      Section.text ⟨name, members'⟩ setting fallback := by
  rw [Section.text, Section.text, value_congr h hfallback]
  rfl

theorem requiredText_congr (h : AgreeUpTo (fallback? name) members members')
    (hfallback : fallback? name setting = none) :
    Section.requiredText ⟨name, members⟩ setting =
      Section.requiredText ⟨name, members'⟩ setting := by
  have hsetting := h setting
  rw [hfallback, Option.or_none, Option.or_none] at hsetting
  rw [Section.requiredText, Section.requiredText, hsetting]
  rfl

theorem flag_congr (h : AgreeUpTo (fallback? name) members members') {fallback : Bool}
    (hfallback : fallback? name setting = some (.bool fallback)) :
    Section.flag ⟨name, members⟩ setting fallback =
      Section.flag ⟨name, members'⟩ setting fallback := by
  rw [Section.flag, Section.flag, value_congr h hfallback]
  rfl

theorem integer_congr (h : AgreeUpTo (fallback? name) members members') {fallback : Int}
    (hfallback : fallback? name setting = some (.int fallback)) :
    Section.integer ⟨name, members⟩ setting fallback =
      Section.integer ⟨name, members'⟩ setting fallback := by
  rw [Section.integer, Section.integer, value_congr h hfallback]
  rfl

theorem choiceName_congr (h : AgreeUpTo (fallback? name) members members') {fallback : String}
    (hfallback : fallback? name setting = some (.str fallback)) :
    Section.choiceName ⟨name, members⟩ setting fallback =
      Section.choiceName ⟨name, members'⟩ setting fallback := by
  rw [Section.choiceName, Section.choiceName, text_congr h hfallback]

theorem choice_congr (h : AgreeUpTo (fallback? name) members members') {all : List α}
    {nameOf : α → String} {fallback : α}
    (hfallback : fallback? name setting = some (.str (nameOf fallback))) :
    Section.choice ⟨name, members⟩ setting all nameOf fallback =
      Section.choice ⟨name, members'⟩ setting all nameOf fallback := by
  rw [Section.choice, Section.choice, choiceName_congr h hfallback]
  rfl

/-! ## Sections -/

/-- **Settings whose sections are alike.** -/
structure Alike (root root' : Json.Members) : Prop where
  log : SectionAlike "log" False (get? "log" root) (get? "log" root')
  library : SectionAlike "library" False (get? "library" root) (get? "library" root')
  search : SectionAlike "search" True (get? "search" root) (get? "search" root')
  output : SectionAlike "output" True (get? "output" root) (get? "output" root')

/-- **What is read does not tell settings apart whose sections are alike.** -/
theorem ofMembers_congr (env : Environment) (h : Alike root root') :
    ofMembers env root = ofMembers env root' := by
  have hlog : readLog root = readLog root' := by
    refine required_congr h.log fun m m' hm => ?_
    rw [text_congr hm rfl, flag_congr hm rfl, text_congr hm rfl]
  have hlibrary : readLibrary env root = readLibrary env root' := by
    refine required_congr h.library fun m m' hm => ?_
    rw [pathVariable, text_congr hm rfl, requiredText_congr hm rfl]
    rfl
  have hsearch : readSearch root = readSearch root' := by
    refine optional_congr h.search fun m m' hm => ?_
    rw [choiceName_congr hm rfl, choice_congr hm rfl, integer_congr hm rfl]
  have houtput : readOutput root = readOutput root' := by
    refine optional_congr h.output fun m m' hm => ?_
    rw [choice_congr hm rfl, text_congr hm rfl]
  rw [ofMembers, ofMembers, hlog, hlibrary, hsearch, houtput]

theorem Alike.overlay (h : Alike root root') {upper : Json.Members}
    (hupper : (Json.obj upper).DistinctKeys) :
    Alike (root.overlay upper) (root'.overlay upper) where
  log := h.log.overlay hupper
  library := h.library.overlay hupper
  search := h.search.overlay hupper
  output := h.output.overlay hupper

end Reading

/-! ## Leaving settings out -/

/-- **What is left out of settings**: any of them but the path of the library, and
any sections as a whole that may be missing. -/
structure Omission where
  /-- Whether a setting is left out, by the name of its section and its key. -/
  single : String → String → Bool
  /-- Whether a section is left out, by its name. -/
  whole : String → Bool
  path : single "library" "path" = false
  log : whole "log" = false
  library : whole "library" = false

namespace Omission

variable (o : Omission) {name : String} {members : Json.Members}

/-- What remains of the value of a section. -/
def shortenIn (name : String) : Json → Json
  | .obj members => .obj (members.filter (!o.single name ·.1))
  | value => value

/-- What remains of settings. -/
def shorten (root : Json.Members) : Json.Members :=
  (root.filter (!o.whole ·.1)).map fun m => (m.1, o.shortenIn m.1 m.2)

theorem get?_shorten (name : String) (root : Json.Members) :
    get? name (o.shorten root) =
      if o.whole name then none else (get? name root).map (o.shortenIn name) := by
  rw [shorten, Json.Members.get?_map, Json.Members.get?_filter (!o.whole ·)]
  cases o.whole name <;> rfl

/-- What is left out of a section is what its settings fall back to. -/
theorem agreeUpTo_filter (h : get? name defaults.toMembers = some (.obj members)) :
    AgreeUpTo (fallback? name) members (members.filter (!o.single name ·.1)) := by
  intro key
  rw [Json.Members.get?_filter (!o.single name ·)]
  cases hsingle : o.single name key with
  | false => rfl
  | true =>
    have hkey : ¬ (name = "library" ∧ key = "path") := by
      rintro ⟨rfl, rfl⟩
      cases o.path.symm.trans hsingle
    rw [fallback?_eq h hkey, Option.or_self]
    rfl

theorem agreeUpTo_nil (h : get? name defaults.toMembers = some (.obj members))
    (hname : name ≠ "library") : AgreeUpTo (fallback? name) members [] := by
  intro key
  rw [fallback?_eq h fun hkey => hname hkey.1, Option.or_self]
  rfl

theorem sectionAlike_shorten {mayMiss : Prop} (hmiss : o.whole name = true → mayMiss)
    (h : get? name defaults.toMembers = some (.obj members)) :
    SectionAlike name mayMiss (get? name defaults.toMembers)
      (get? name (o.shorten defaults.toMembers)) := by
  rw [get?_shorten, h]
  cases hwhole : o.whole name with
  | false => exact .read (o.agreeUpTo_filter h)
  | true =>
    refine .missed (hmiss hwhole) (agreeUpTo_nil h ?_)
    rintro rfl
    cases o.library.symm.trans hwhole

theorem alike_shorten : Alike defaults.toMembers (o.shorten defaults.toMembers) where
  log := o.sectionAlike_shorten (fun h => Bool.noConfusion (o.log.symm.trans h)) rfl
  library := o.sectionAlike_shorten (fun h => Bool.noConfusion (o.library.symm.trans h)) rfl
  search := o.sectionAlike_shorten (fun _ => trivial) rfl
  output := o.sectionAlike_shorten (fun _ => trivial) rfl

end Omission

/-- **The built-in document says what is fallen back to.** Whatever is left out of
it, what is laid over the rest comes to the same as over the whole, be it settings
or an error. What is laid over it names every key once, as a document does
(`distinctKeys_of_ofDocument`). -/
theorem exists_ofMembers_shorten_builtIn :
    ∃ members, ofDocument builtIn = .ok members ∧
      ∀ (o : Omission) (env : Environment) (upper : Json.Members),
        (Json.obj upper).DistinctKeys →
          ofMembers env ((o.shorten members).overlay upper) =
            ofMembers env (members.overlay upper) := by
  refine ⟨defaults.toMembers, ofDocument_builtIn, fun o env upper hupper => ?_⟩
  exact (ofMembers_congr env (o.alike_shorten.overlay hupper)).symm

/-- Nothing is left but an empty section for the log and the path of the library. -/
theorem exists_ofMembers_shorten_builtIn_bare :
    let o : Omission :=
      ⟨fun name key => !(name == "library" && key == "path"),
        fun name => name == "search" || name == "output", rfl, rfl, rfl⟩
    let upper : Json.Members :=
      [("log", .obj [("level", .str "info")]), ("search", .obj [("limit", .int 20)]),
        ("output", .null)]
    let env : Environment := fun _ => none
    ∃ members, ofDocument builtIn = .ok members ∧ (Json.obj upper).DistinctKeys ∧
      ofMembers env ((o.shorten members).overlay upper) = ofMembers env (members.overlay upper) ∧
      (ofMembers env (members.overlay upper)).toOption =
        some ⟨⟨.info, false, "log"⟩, ⟨"library.json", "REFSEARCH_LIBRARY"⟩,
          ⟨.relevance, .descending, 20⟩, ⟨.pretty, ""⟩⟩ := by
  intro o upper env
  have hlog : (Json.obj [("level", .str "info")]).DistinctKeys :=
    .obj (by decide) (List.forall_mem_singleton.2 (.leaf rfl))
  have hsearch : (Json.obj [("limit", .int 20)]).DistinctKeys :=
    .obj (by decide) (List.forall_mem_singleton.2 (.leaf rfl))
  have hupper : (Json.obj upper).DistinctKeys :=
    .obj (by decide) (List.forall_mem_cons.2 ⟨hlog, List.forall_mem_cons.2
      ⟨hsearch, List.forall_mem_singleton.2 (.leaf rfl)⟩⟩)
  obtain ⟨members, hmembers, hshorten⟩ := exists_ofMembers_shorten_builtIn
  obtain rfl := Except.ok.inj (ofDocument_builtIn.symm.trans hmembers)
  exact ⟨_, hmembers, hupper, hshorten o env upper hupper, by decide +kernel⟩

end Bibliography.Settings
