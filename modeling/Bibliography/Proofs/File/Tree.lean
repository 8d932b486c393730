import Bibliography.File.Tree
import Bibliography.Proofs.Fallible
/-!
# What changes in a tree of files

Making directories leaves every file as it is, and writing a file every other
one. Where a path leads is told by its steps alone (`Path.target`), so the file
that is written is known without the tree (`keeps_write`). A text that is written
behind a file stands there behind what the file held (`exists_write_behind`).
-/

namespace Bibliography

/-- Where a path leads to: each step is taken, also a step back. -/
def Path.target (p : Path) : Path :=
  p.steps.foldl Path.child ⟨p.root, []⟩

namespace Tree

variable {t t' t'' : Tree} {p q : Path} {P Q : Path → Prop}

/-- **That files stay as they are**, and none comes or goes, but for those that
are set apart. -/
def Keeps (P : Path → Prop) (t t' : Tree) : Prop :=
  ∀ q, P q ∨ ∀ data, t'.entry q = .file data ↔ t.entry q = .file data

theorem Keeps.refl (t : Tree) : Keeps P t t :=
  fun _ => .inr fun _ => Iff.rfl

theorem Keeps.trans (h : Keeps P t t') (h' : Keeps P t' t'') : Keeps P t t'' := by
  intro q
  rcases h q with hq | hsame
  · exact .inl hq
  · exact (h' q).imp id fun hsame' data => (hsame' data).trans (hsame data)

theorem Keeps.mono (h : Keeps P t t') (hPQ : ∀ q, P q → Q q) : Keeps Q t t' :=
  fun q => (h q).imp (hPQ q) id

/-! ## Single changes -/

theorem lookup_putEntry {e : Option ByteArray} {entries : List (Path × Option ByteArray)} :
    (putEntry p e entries).lookup q = if q = p then some e else entries.lookup q := by
  induction entries with
  | nil =>
    by_cases hq : q = p
    · simp [putEntry, hq]
    · simp [putEntry, List.lookup_cons, beq_false_of_ne hq, hq]
  | cons first rest ih =>
    obtain ⟨k, old⟩ := first
    by_cases hk : k = p
    · subst hk
      by_cases hq : q = k
      · simp [putEntry, hq]
      · simp [putEntry, List.lookup_cons, beq_false_of_ne hq, hq]
    · rw [putEntry, if_neg hk]
      by_cases hq : q = k
      · simp [hq, hk]
      · simp [List.lookup_cons, beq_false_of_ne hq, ih]

/-- Putting something at one path leaves the others. -/
theorem entry_put_of_ne {e : Option ByteArray} (h : q ≠ p) : (t.put p e).entry q = t.entry q := by
  simp only [entry, put, lookup_putEntry, if_neg h]

theorem entry_put_none (h : t.entry p = .missing) : (t.put p none).entry p = .directory := by
  unfold entry at h ⊢
  split at h
  · cases h
  · next hback => rw [if_neg hback, put, lookup_putEntry, if_pos rfl]

/-- What is put in the place of a file, or where nothing stood, is there. -/
theorem entry_put_some {data : ByteArray} (h : t.entry p ≠ .directory) :
    (t.put p (some data)).entry p = .file data := by
  unfold entry at h ⊢
  split at h
  · exact absurd rfl h
  · next hback => rw [if_neg hback, put, lookup_putEntry, if_pos rfl]

/-- A directory where nothing stood. -/
theorem keeps_put_none (h : t.entry p = .missing) : Keeps P t (t.put p none) := by
  intro q
  refine .inr fun data => ?_
  by_cases hq : q = p
  · subst hq
    rw [entry_put_none h, h]
    exact ⟨nofun, nofun⟩
  · rw [entry_put_of_ne hq]

theorem keeps_put {e : Option ByteArray} : Keeps (· = p) t (t.put p e) := by
  intro q
  by_cases hq : q = p
  · exact .inl hq
  · exact .inr fun data => by rw [entry_put_of_ne hq]

/-! ## Where a path leads -/

theorem follow_eq_ok {steps : List String} (h : t.follow p steps = .ok q) :
    q = steps.foldl Path.child p := by
  induction steps generalizing p with
  | nil => exact (Except.ok.inj h).symm
  | cons step rest ih =>
    rw [follow] at h
    split at h
    · split at h
      · cases h
      · exact ih h
    · cases h
    · cases h

theorem resolve_eq_ok_iff : t.resolve p = .ok q ↔
    (p.toString.toList.contains '\x00' = false ∧ p.toString.utf8ByteSize ≤ maxPathSize) ∧
      t.follow ⟨p.root, []⟩ p.steps = .ok q := by
  unfold resolve
  grind

theorem resolve_eq_ok (h : t.resolve p = .ok q) : q = p.target :=
  follow_eq_ok (resolve_eq_ok_iff.1 h).2

/-- A path leads where it did when something is put at a place that is no directory, since
only directories are on the way. -/
theorem follow_put {e : Option ByteArray} {steps : List String} {p' : Path}
    (hq : t.entry q ≠ .directory) (h : t.follow p steps = .ok p') :
    (t.put q e).follow p steps = .ok p' := by
  induction steps generalizing p with
  | nil => exact h
  | cons step rest ih =>
    rw [follow] at h ⊢
    split at h
    · next hdirectory =>
      have hne : p ≠ q := fun hpq => hq (hpq ▸ hdirectory)
      rw [entry_put_of_ne hne, hdirectory]
      dsimp only
      split at h
      · cases h
      · next hlong =>
        rw [if_neg hlong]
        exact ih h
    · cases h
    · cases h

/-- A file that is put where a path leads is found there. -/
theorem look_put {data : ByteArray} (hp : t.resolve p = .ok q) (hq : t.entry q ≠ .directory) :
    (t.put q (some data)).look p = .file data := by
  obtain ⟨hname, hfollow⟩ := resolve_eq_ok_iff.1 hp
  have hresolve : (t.put q (some data)).resolve p = .ok q :=
    resolve_eq_ok_iff.2 ⟨hname, follow_put hq hfollow⟩
  rw [look, hresolve]
  exact entry_put_some hq

/-! ## Making directories and writing files -/

theorem keeps_makeOne (h : t.makeOne p = .ok t') : Keeps P t t' := by
  obtain ⟨q, -, hput⟩ := bind_eq_ok_iff.1 h
  split at hput
  · next hmissing =>
    obtain rfl := Except.ok.inj hput
    exact keeps_put_none hmissing
  · cases hput

theorem keeps_makeAll {root : String} {reversed : List String}
    (h : t.makeAll root reversed = .ok t') : Keeps P t t' := by
  induction reversed generalizing t t' with
  | nil =>
    obtain rfl := Except.ok.inj h
    exact .refl t
  | cons step before ih =>
    have hthere : ∀ {t₀ : Tree} {o : Obstacle} {p : Path},
        (if t₀.isDirectory p then Except.ok t₀ else .error (FileError.mk o p)) = .ok t' →
          t₀ = t' := by
      intro t₀ o p hok
      split at hok
      · exact Except.ok.inj hok
      · cases hok
    rw [makeAll] at h
    -- made, or made after what is above it, or there already
    split at h
    · next made hmade =>
      obtain rfl := Except.ok.inj h
      exact keeps_makeOne hmade
    · obtain ⟨above, habove, hrest⟩ := bind_eq_ok_iff.1 h
      split at hrest
      · next made hmade =>
        obtain rfl := Except.ok.inj hrest
        exact (ih habove).trans (keeps_makeOne hmade)
      · obtain rfl := hthere hrest
        exact ih habove
    · obtain rfl := hthere h
      exact .refl _

theorem keeps_write {behind : Bool} {text : String} (h : t.write p behind text = .ok t') :
    Keeps (· = p.target) t t' := by
  unfold write at h
  split at h
  · cases h
  · next q hq =>
    obtain rfl := resolve_eq_ok hq
    split at h
    · cases h
    · obtain rfl := Except.ok.inj h
      exact keeps_put
    · obtain rfl := Except.ok.inj h
      exact keeps_put

/-- **A text that is written behind a file** stands behind what the file held. -/
theorem exists_write_behind {data : ByteArray} (text : String) (h : t.look p = .file data) :
    ∃ t', t.write p true text = .ok t' ∧ t'.look p = .file (data ++ text.toUTF8) := by
  unfold look at h
  split at h
  · next q hq =>
    have hfile : t.entry q ≠ .directory := by simp [h]
    refine ⟨t.put q (some (data ++ text.toUTF8)), ?_, look_put hq hfile⟩
    simp only [write, hq, h, if_true]
    rfl
  · cases h
  · cases h

/-- A file that has been written is there. -/
theorem exists_look_of_write {behind : Bool} {text : String} (h : t.write p behind text = .ok t') :
    ∃ data, t'.look p = .file data := by
  unfold write at h
  split at h
  · cases h
  · next q hq =>
    split at h
    · cases h
    · next hfile =>
      obtain rfl := Except.ok.inj h
      exact ⟨_, look_put hq (by simp [hfile])⟩
    · next hdirectory _ =>
      obtain rfl := Except.ok.inj h
      exact ⟨_, look_put hq hdirectory⟩

end Tree

end Bibliography
