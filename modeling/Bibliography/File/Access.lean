import Bibliography.File.Place
/-!
# Access to files

What is done with files is described before it is done: an access is over
with a result, or asks for one thing and goes on with the answer. An inquiry
is an access that does nothing but look. The same description acts on all
that can answer (`Files`), a tree of files as well as those of a machine.
-/

namespace Bibliography

/-- Something to be done with files. -/
inductive Access (α : Type) where
  | done (a : α)
  /-- Looks at what stands at a path. -/
  | look (path : Path) (next : Place → Access α)
  /-- Makes a directory with all directories on the way; one that is there
  already will do. -/
  | makeDirectory (path : Path) (next : Except FileError Unit → Access α)
  /-- Writes a text to a file, behind what it holds or in place of it. -/
  | write (path : Path) (behind : Bool) (text : String) (next : Except FileError Unit → Access α)

namespace Access

/-- One access after another. -/
def andThen {α β : Type} (f : α → Access β) : Access α → Access β
  | done a => f a
  | look path next => look path fun place => (next place).andThen f
  | makeDirectory path next => makeDirectory path fun r => (next r).andThen f
  | write path behind text next => write path behind text fun r => (next r).andThen f

instance : Monad Access where
  pure := done
  bind a f := a.andThen f

/-- What stands at a path. -/
def lookAt (path : Path) : Access Place := look path done

/-- Makes a directory. -/
def directory (path : Path) : Access (Except FileError Unit) := makeDirectory path done

/-- Writes a text behind what a file holds. -/
def append (path : Path) (text : String) : Access (Except FileError Unit) :=
  write path true text done

/-- Writes a text in place of what a file holds. -/
def save (path : Path) (text : String) : Access (Except FileError Unit) :=
  write path false text done

end Access

/-! ## Inquiries -/

/-- Something to be found out by looking at files. -/
inductive Inquiry (α : Type) where
  | done (a : α)
  /-- Looks at what stands at a path. -/
  | look (path : Path) (next : Place → Inquiry α)

namespace Inquiry

/-- One inquiry after another. -/
def andThen {α β : Type} (f : α → Inquiry β) : Inquiry α → Inquiry β
  | done a => f a
  | look path next => look path fun place => (next place).andThen f

instance : Monad Inquiry where
  pure := done
  bind a f := a.andThen f

/-- What stands at a path. -/
def lookAt (path : Path) : Inquiry Place := look path done

/-- The inquiry as an access. -/
def access {α : Type} : Inquiry α → Access α
  | done a => .done a
  | look path next => .look path fun place => (next place).access

instance : MonadLift Inquiry Access where
  monadLift := access

end Inquiry

/-! ## Files -/

/-- **Files that answer to accesses.** What is answered may depend on all that
was asked before, and what cannot be written may have been written in part. -/
class Files (σ : Type) where
  look : Path → σ → Place × σ
  makeDirectory : Path → σ → Except FileError Unit × σ
  write : Path → Bool → String → σ → Except FileError Unit × σ

/-- Does on files what an access describes. -/
def Access.on {α σ : Type} [Files σ] : Access α → σ → α × σ
  | done a, s => (a, s)
  | look path next, s =>
    let (place, s) := Files.look path s
    (next place).on s
  | makeDirectory path next, s =>
    let (r, s) := Files.makeDirectory path s
    (next r).on s
  | write path behind text next, s =>
    let (r, s) := Files.write path behind text s
    (next r).on s

end Bibliography
