import Bibliography.File.Access
/-!
# Trees of files

Files and directories by their paths, below a place that is a directory
itself. What is outside of that place is taken to be empty directories.
Where something cannot be made or written, the tree stays as it is.
-/

namespace Bibliography

/-- What stands in a tree: the bytes of a file, or nothing for a directory, by
its path without steps back. -/
structure Tree where
  entries : List (Path × Option ByteArray)

namespace Tree

/-- No files. -/
def empty : Tree := ⟨[]⟩

/-- What stands at a path without steps back. -/
def entry (t : Tree) (p : Path) : Place :=
  if p.steps.all (· == "..") then .directory
  else match t.entries.lookup p with
    | some (some data) => .file data
    | some none => .directory
    | none => .missing

/-- Puts something at a path: in the place of what is there, or at the end. -/
def putEntry (p : Path) (e : Option ByteArray) :
    List (Path × Option ByteArray) → List (Path × Option ByteArray)
  | [] => [(p, e)]
  | (q, old) :: rest => if q = p then (p, e) :: rest else (q, old) :: putEntry p e rest

/-- The tree with something at a path. -/
def put (t : Tree) (p : Path) (e : Option ByteArray) : Tree :=
  ⟨putEntry p e t.entries⟩

/-- How many bytes a path may have. -/
def maxPathSize : Nat := 4095

/-- How many bytes a step may have. -/
def maxStepSize : Nat := 255

/-- Follows steps from a path: each leads on from a directory. -/
def follow (t : Tree) (p : Path) : List String → Except Obstacle Path
  | [] => .ok p
  | step :: rest =>
    match t.entry p with
    | .directory =>
      if maxStepSize < step.utf8ByteSize then .error .tooLong else t.follow (p.child step) rest
    | .file _ => .error .notDirectory
    | _ => .error .missing

/-- Where a path leads to, without steps back. -/
def resolve (t : Tree) (p : Path) : Except Obstacle Path :=
  if p.toString.toList.contains '\x00' then .error (.noName "embedded null byte")
  else if maxPathSize < p.toString.utf8ByteSize then .error .tooLong
  else t.follow ⟨p.root, []⟩ p.steps

/-- What stands at a path. -/
def look (t : Tree) (p : Path) : Place :=
  match t.resolve p with
  | .ok q => t.entry q
  | .error .tooLong => .barred ⟨.tooLong, p⟩
  | .error _ => .missing

/-- Whether a directory stands at a path. -/
def isDirectory (t : Tree) (p : Path) : Bool :=
  match t.look p with
  | .directory => true
  | _ => false

/-- Makes one directory, where nothing stands yet. -/
def makeOne (t : Tree) (p : Path) : Except Obstacle Tree := do
  let q ← t.resolve p
  match t.entry q with
  | .missing => return t.put q none
  | _ => throw .occupied

/-- Makes a directory if there is none, given the steps to it from the last to
the first; if directories on the way are missing they are made before it. -/
def makeAll (t : Tree) (root : String) : (reversed : List String) → Except FileError Tree
  | [] => .ok t
  | step :: before =>
    let p : Path := ⟨root, (step :: before).reverse⟩
    let unlessThere (t : Tree) (o : Obstacle) : Except FileError Tree :=
      if t.isDirectory p then .ok t else .error ⟨o, p⟩
    match t.makeOne p with
    | .ok t => .ok t
    | .error .missing => do
      let t ← t.makeAll root before
      match t.makeOne p with
      | .ok t => return t
      | .error o => unlessThere t o
    | .error o => unlessThere t o

/-- Writes a text to a file, which is made if nothing stands there. -/
def write (t : Tree) (p : Path) (behind : Bool) (text : String) : Except FileError Tree := do
  let fail {α : Type} (o : Obstacle) : Except FileError α := .error ⟨o, p⟩
  match t.resolve p with
  | .error o => fail o
  | .ok q =>
    match t.entry q with
    | .directory => fail .isDirectory
    | .file data => return t.put q (some (if behind then data ++ text.toUTF8 else text.toUTF8))
    | _ => return t.put q (some text.toUTF8)

/-- The tree with a file and the directories that it stands in. -/
def withFile (t : Tree) (p : Path) (data : ByteArray) : Tree :=
  match t.makeAll p.root p.steps.dropLast.reverse with
  | .ok t => t.put p (some data)
  | .error _ => t

/-- The result of a change: the tree as it was if the change fails. -/
def change (t : Tree) : Except FileError Tree → Except FileError Unit × Tree
  | .ok t => (.ok (), t)
  | .error e => (.error e, t)

end Tree

instance : Files Tree where
  look path t := (t.look path, t)
  makeDirectory path t := t.change (t.makeAll path.root path.steps.reverse)
  write path behind text t := t.change (t.write path behind text)

/-- Does on a tree what an access describes. -/
def Access.onTree {α : Type} (a : Access α) (t : Tree) : α × Tree :=
  a.on t

end Bibliography
