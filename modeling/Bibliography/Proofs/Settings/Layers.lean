import Bibliography.Proofs.Json.Members
import Bibliography.Proofs.Settings.Written
/-!
# Settings in layers

What a document says names every key once (`distinctKeys_of_ofDocument`). Settings in
layers are not read at all if one of the texts is not there or not loaded
(`Unreadable`), however texts are loaded; all else that is wrong with them is what
they say (`ofDocuments_eq_error`).
-/

namespace Bibliography

namespace Yaml.Value

mutual

theorem distinctKeys_toJson (v : Value) : v.toJson.DistinctKeys :=
  match v with
  | .scalar s => .leaf (by cases s <;> rfl)
  | .list _ => .leaf rfl
  | .map entries =>
    .obj (Json.Members.nodup_keys_ofList _) fun m hm =>
      distinctKeys_of_mem_entriesJson entries m (Json.Members.mem_of_mem_ofList hm)

theorem distinctKeys_of_mem_entriesJson (entries : List (Scalar × Value)) (m : String × Json)
    (hm : m ∈ entriesJson entries) : m.2.DistinctKeys := by
  match entries with
  | [] => cases hm
  | (key, v) :: rest =>
    rcases List.mem_cons.1 hm with rfl | hm
    · exact distinctKeys_toJson v
    · exact distinctKeys_of_mem_entriesJson rest m hm

end

end Yaml.Value

namespace Settings

/-- **What a document says names every key once.** -/
theorem distinctKeys_of_ofDocument {text : String} {members : Json.Members}
    (h : ofDocument text = .ok members) : (Json.obj members).DistinctKeys := by
  obtain ⟨json, hload, hrest⟩ := bind_eq_ok_iff.1 h
  obtain ⟨value, -, rfl⟩ := map_eq_ok_iff.1 (mapError_eq_ok_iff.1 hload)
  dsimp only at hrest
  split at hrest
  · split at hrest
    · next hvalue =>
      obtain rfl := Except.ok.inj hrest
      exact hvalue ▸ value.distinctKeys_toJson
    · cases hrest
  · obtain rfl := Except.ok.inj hrest
    exact .obj List.nodup_nil (List.forall_mem_nil _)

/-! ## Refusals -/

section Loading

variable {load : String → Except Yaml.LoadFault Json} {env : Environment} {first text : String}
  {second : Option Place} {e : ConfigError} {f : Yaml.LoadFault}

/-- A text is refused because it is not loaded, or because it holds no mapping. -/
theorem membersOf_eq_error (h : membersOf load text = .error e) :
    (∃ f, load text = .error f ∧ e = .document f) ∨ e = .rootNotMapping := by
  rcases bind_eq_error_iff.1 h with hload | ⟨json, -, hrest⟩
  · obtain ⟨f, hf, rfl⟩ := mapError_eq_error_iff.1 hload
    exact .inl ⟨f, hf, rfl⟩
  · right
    dsimp only at hrest
    split at hrest
    · split at hrest
      · cases hrest
      · exact (Except.error.inj hrest).symm
    · cases hrest

theorem membersOf_of_load (h : load text = .error f) :
    membersOf load text = .error (.document f) := by
  rw [membersOf, h]
  rfl

/-- **What keeps settings from being read at all**: the first text is not loaded, or
the second is not there to be read, or it is not loaded. -/
inductive Unreadable (load : String → Except Yaml.LoadFault Json) (first : String)
    (second : Option Place) : ConfigError → Prop
  | first {f : Yaml.LoadFault} (hload : load first = .error f) :
      Unreadable load first second (.document f)
  | place {lower : Json.Members} {p : Place} {r : ReadError}
      (hfirst : membersOf load first = .ok lower) (hsecond : second = some p)
      (htext : p.text = .error r) : Unreadable load first second (.file r)
  | second {lower : Json.Members} {p : Place} {text : String} {f : Yaml.LoadFault}
      (hfirst : membersOf load first = .ok lower) (hsecond : second = some p)
      (htext : p.text = .ok text) (hload : load text = .error f) :
      Unreadable load first second (.document f)

theorem Unreadable.ofDocuments_eq (h : Unreadable load first second e) :
    ofDocuments load env first second = .error e := by
  cases h with
  | first hload =>
    rw [ofDocuments, layered, membersOf_of_load hload]
    rfl
  | place hfirst hsecond htext =>
    rw [ofDocuments, layered, hfirst, hsecond]
    simp only [bind, Except.bind, htext, mapError_error]
  | second hfirst hsecond htext hload =>
    rw [ofDocuments, layered, hfirst, hsecond]
    simp only [bind, Except.bind, htext, mapError_ok, membersOf_of_load hload]

/-- Settings that are refused are not read at all, or what has been read is no
mapping, or not what settings look like. -/
theorem ofDocuments_eq_error (h : ofDocuments load env first second = .error e) :
    Unreadable load first second e ∨ e = .rootNotMapping ∨ ∃ e', e = .settings e' := by
  rcases bind_eq_error_iff.1 h with hlayered | ⟨root, -, hsettings⟩
  · rcases bind_eq_error_iff.1 hlayered with hrefused | ⟨lower, hfirst, hsecond⟩
    · rcases membersOf_eq_error hrefused with ⟨f, hload, rfl⟩ | rfl
      · exact .inl (.first hload)
      · exact .inr (.inl rfl)
    · cases second with
      | none => cases hsecond
      | some p =>
        rcases bind_eq_error_iff.1 hsecond with hrefused | ⟨text, htext, hover⟩
        · obtain ⟨r, htext, rfl⟩ := mapError_eq_error_iff.1 hrefused
          exact .inl (.place hfirst rfl htext)
        · rw [mapError_eq_ok_iff] at htext
          rcases bind_eq_error_iff.1 hover with hrefused | ⟨_, -, hlaid⟩
          · rcases membersOf_eq_error hrefused with ⟨f, hload, rfl⟩ | rfl
            · exact .inl (.second hfirst rfl htext hload)
            · exact .inr (.inl rfl)
          · cases hlaid
  · obtain ⟨e', -, rfl⟩ := mapError_eq_error_iff.1 hsettings
    exact .inr (.inr ⟨e', rfl⟩)

end Loading

end Settings

end Bibliography
