import Bibliography.Proofs.File.Tree
/-!
# What an access does to files

An access is followed step by step: one after another acts on the files that the
first has left (`on_bind`). On a tree, some only look and leave it as it is, as
inquiries do (`looks_access`); others spare all files but those at certain paths.
-/

namespace Bibliography

/-- What an inquiry finds out about files, and the files that it leaves. -/
def Inquiry.on {α σ : Type} [Files σ] (i : Inquiry α) (s : σ) : α × σ :=
  i.access.on s

namespace Access

variable {α β : Type} {a : Access α} {f : α → Access β} {t : Tree} {P Q : Path → Prop}

/-- **One access after another acts on the files that the first has left**, whatever
the files. -/
theorem on_bind {σ : Type} [Files σ] {s : σ} :
    (a >>= f).on s = (f (a.on s).1).on (a.on s).2 := by
  show (a.andThen f).on s = _
  induction a generalizing s with
  | done => rfl
  | look path next ih => exact ih _
  | makeDirectory path next ih => exact ih _
  | write path behind text next ih => exact ih _

/-- An access that goes on with what has been found out. -/
theorem on_inquire_bind {σ : Type} [Files σ] {s : σ} {i : Inquiry α} :
    (liftM i >>= f).on s = (f (i.on s).1).on (i.on s).2 :=
  on_bind

theorem onTree_bind :
    (a >>= f).onTree t = (f (a.onTree t).1).onTree (a.onTree t).2 :=
  on_bind

/-! ## Looking -/

/-- An access that leaves the tree as it is. -/
def Looks (a : Access α) : Prop :=
  ∀ t, (a.onTree t).2 = t

theorem looks_lookAt (p : Path) : (lookAt p).Looks :=
  fun _ => rfl

/-- **To inquire is to look.** -/
theorem looks_access (i : Inquiry α) : i.access.Looks := by
  induction i with
  | done a => exact fun _ => rfl
  | look path next ih => exact fun t => ih _ t

/-- Inquiries leave a tree as it is. -/
theorem eq_of_on {i : Inquiry α} {x : α} {t' : Tree} (h : i.on t = (x, t')) : t = t' := by
  have hlooks := looks_access i t
  rw [Access.onTree, ← Inquiry.on, h] at hlooks
  exact hlooks.symm

/-! ## Writing -/

/-- An access that spares all files but those at the paths set apart. -/
def Spares (P : Path → Prop) (a : Access α) : Prop :=
  ∀ t : Tree, t.Keeps P (a.onTree t).2

theorem spares_pure (x : α) : Spares P (pure x : Access α) :=
  fun t => .refl t

theorem spares_bind (ha : a.Spares P) (hf : ∀ x, (f x).Spares P) : (a >>= f).Spares P := by
  intro t
  rw [onTree_bind]
  exact (ha t).trans (hf _ _)

theorem Spares.mono (ha : a.Spares P) (hPQ : ∀ q, P q → Q q) : a.Spares Q :=
  fun t => (ha t).mono hPQ

theorem Looks.spares (ha : a.Looks) : a.Spares P := by
  intro t
  rw [ha]
  exact .refl t

theorem spares_directory (p : Path) : (directory p).Spares P := by
  intro t
  show t.Keeps P (t.change (t.makeAll p.root p.steps.reverse)).2
  cases hmade : t.makeAll p.root p.steps.reverse with
  | ok made => exact Tree.keeps_makeAll hmade
  | error => exact .refl t

theorem spares_write (p : Path) (behind : Bool) (text : String) :
    (write p behind text done).Spares (· = p.target) := by
  intro t
  show t.Keeps _ (t.change (t.write p behind text)).2
  cases hwritten : t.write p behind text with
  | ok written => exact Tree.keeps_write hwritten
  | error => exact .refl t

/-- **A text that is appended to a file** stands behind what the file held. -/
theorem look_append {p : Path} {data : ByteArray} {text : String} (h : t.look p = .file data) :
    ((append p text).onTree t).2.look p = .file (data ++ text.toUTF8) := by
  obtain ⟨t', hwritten, hlook⟩ := Tree.exists_write_behind text h
  have hchange : (append p text).onTree t = t.change (t.write p true text) := rfl
  rw [hchange, hwritten]
  exact hlook

/-- A file that has been opened to append to it is there. -/
theorem exists_look_of_append {p : Path} {text : String}
    (h : ((append p text).onTree t).1 = .ok ()) :
    ∃ data, ((append p text).onTree t).2.look p = .file data := by
  have hchange : (append p text).onTree t = t.change (t.write p true text) := rfl
  rw [hchange] at h ⊢
  cases hwritten : t.write p true text with
  | ok written => exact Tree.exists_look_of_write hwritten
  | error =>
    rw [hwritten] at h
    cases h

/-- A text that cannot be written changes nothing. -/
theorem onTree_save_error {p : Path} {text : String} {e : FileError}
    (h : ((save p text).onTree t).1 = .error e) : ((save p text).onTree t).2 = t := by
  have hchange : (save p text).onTree t = t.change (t.write p false text) := rfl
  rw [hchange] at h ⊢
  cases hwritten : t.write p false text with
  | ok written =>
    rw [hwritten] at h
    cases h
  | error => rfl

end Access

end Bibliography
