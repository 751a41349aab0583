import QuotaWatch.Files.Tree
/-!
**Operations on a file tree and the notifications they raise.**

An operation changes the tree and reports, path by path, what a file-system notification
service would say happened:

* writing or appending creates the missing parent directories (each reported as created), then
  reports the file as created when it is new, and as written;
* making a directory reports each missing directory on the way as created;
* removing reports every removed path, the deepest first;
* renaming reports the source as renamed away and the target as created.
-/

namespace QuotaWatch

/-- What a notification says happened to a path. -/
inductive ChangeKind where
  | create
  | write
  | remove
  | rename
  deriving DecidableEq, Repr, Inhabited

/-- A notification: a path and what happened to it. -/
structure Change where
  path : Path
  kind : ChangeKind
  deriving Inhabited

/-- An operation on a file tree. -/
inductive FsOp where
  /-- Replaces a file's content, creating the file and its directories. -/
  | write (p : Path) (data : List UInt8)
  /-- Adds to a file's content, creating the file and its directories. -/
  | append (p : Path) (data : List UInt8)
  /-- Creates a directory and its missing ancestors. -/
  | mkdir (p : Path)
  /-- Removes a path and everything below it. -/
  | remove (p : Path)
  /-- Moves a path and everything below it. -/
  | rename (src dst : Path)
  deriving Inhabited

/-- The ancestors-and-self of `p` that do not exist, the topmost first. -/
def FileTree.missingDirs (t : FileTree) (p : Path) : List Path :=
  ((List.range p.length).map fun i => p.take (i + 1)).filter fun a => !t.exists_ a

/-- The paths at or below `p`, the deepest first. -/
def FileTree.subtree (t : FileTree) (p : Path) : List Path :=
  ((t.entries.filter fun (q, _) => under p q).map (·.1)).mergeSort fun a b => a.length ≥ b.length

/-- Creations of directories. -/
def Change.created (ps : List Path) : List Change := ps.map fun p => ⟨p, .create⟩

namespace FsOp

/-- Writes or appends below fresh directories, reporting what was created and written. -/
def store (t : FileTree) (now : Instant) (p : Path) (put : FileTree → Except FsError FileTree) :
    Except FsError (FileTree × List Change) := do
  let dirs := t.missingDirs p.parent
  let fresh := !t.exists_ p
  let t2 ← put (← t.mkdirAll p.parent now)
  return (t2, Change.created dirs ++ (if fresh then [⟨p, .create⟩] else []) ++ [⟨p, .write⟩])

/-- Applies an operation at `now`: the new tree and the notifications, in order. -/
def apply (t : FileTree) (now : Instant) : FsOp → Except FsError (FileTree × List Change)
  | .write p data => store t now p fun t => t.putBytes p data now
  | .append p data => store t now p fun t => t.appendBytes p data now
  | .mkdir p => do
    let dirs := t.missingDirs p
    return (← t.mkdirAll p now, Change.created dirs)
  | .remove p => .ok (t.remove p, (t.subtree p).map fun q => ⟨q, .remove⟩)
  | .rename src dst => do
    return (← t.rename src dst, [⟨src, .rename⟩, ⟨dst, .create⟩])

end FsOp

end QuotaWatch
