import QuotaWatch.Time.Instant
/-!
**A tree of files and directories.**

A `FileTree` is a part of a disk as a value: every path names a directory, a regular file or a
socket, and a file refers to its content by number, so a reader that opened a file keeps its
content after a replace, while an in-place write changes what readers see. A socket is listed
and has a time like any entry, but it is neither a directory nor a regular file, and opening it
to read or write fails. An entry's parent is a directory.
Failures carry the operation, the path and the cause, as `open a/b: no such file or directory`.
-/

namespace QuotaWatch

/-- A path: the names from the top of the tree. -/
abbrev Path := List String

namespace Path

/-- A path as text, names joined by `/`. -/
def text (p : Path) : String := "/".intercalate p

/-- The path of a text: its non-empty names between `/`. -/
def ofText (s : String) : Path := (s.splitOn "/").filter (· ≠ "")

/-- The last name of a path. -/
def base (p : Path) : String := p.getLastD ""

/-- The path of the directory holding `p`. -/
def parent (p : Path) : Path := p.dropLast

/-- `p` followed by a name or a relative path. -/
def join (p : Path) (q : String) : Path := p ++ ofText q

end Path

/-- What a path names: a file, by the number of its content, or a directory. -/
inductive Entry where
  | file (id : Nat) (mtime : Instant)
  | dir (mtime : Instant)
  | socket (mtime : Instant)
  deriving Inhabited, DecidableEq

namespace Entry

def isDir : Entry → Bool
  | .dir _ => true
  | _ => false

def mtime : Entry → Instant
  | .dir t => t
  | .file _ t => t
  | .socket t => t

end Entry

/-- The cause of a failed operation. -/
inductive FsCause where
  | notFound
  | notDir
  | isDir
  | exists_
  | notEmpty
  /-- The device failed the call. -/
  | io
  /-- The entry cannot be opened as a file: it is a socket. -/
  | noDevice
  deriving DecidableEq, Repr, Inhabited

/-- The usual wording of a cause. -/
def FsCause.text : FsCause → String
  | .notFound => "no such file or directory"
  | .notDir => "not a directory"
  | .isDir => "is a directory"
  | .exists_ => "file exists"
  | .notEmpty => "directory not empty"
  | .io => "input/output error"
  | .noDevice => "no such device or address"

/-- The wording of a cause as the programs of the system write it: a capital first letter. -/
def FsCause.sentence (c : FsCause) : String :=
  match c.text.toList with
  | f :: rest => String.ofList (f.toUpper :: rest)
  | [] => ""

/-- A failed operation on a path. -/
structure FsError where
  op : String
  path : Path
  cause : FsCause
  deriving Inhabited, DecidableEq

/-- The message of a failed operation, e.g. `open a/b: no such file or directory`. -/
def FsError.message (e : FsError) : String := e.op ++ " " ++ e.path.text ++ ": " ++ e.cause.text

/-- A tree of files and directories with the contents of its files by number. -/
structure FileTree where
  entries : List (Path × Entry) := []
  contents : List (Nat × List UInt8) := []
  nextId : Nat := 0
  deriving Inhabited

namespace FileTree

/-- The entry at a path; the top of the tree is always a directory. -/
def find? (t : FileTree) (p : Path) : Option Entry :=
  if p = [] then some (.dir Instant.zero) else (t.entries.find? (·.1 == p)).map (·.2)

/-- Whether a path is a directory. -/
def isDir (t : FileTree) (p : Path) : Bool :=
  match t.find? p with
  | some (.dir _) => true
  | _ => false

/-- Whether a path exists. -/
def exists_ (t : FileTree) (p : Path) : Bool := (t.find? p).isSome

/-- The content of a file number. -/
def content (t : FileTree) (id : Nat) : List UInt8 := ((t.contents.find? (·.1 == id)).map (·.2)).getD []

/-- Why the directory that would hold `p` cannot: a missing or non-directory ancestor. -/
def parentProblem (t : FileTree) (p : Path) : Option FsCause :=
  let ancestors := (List.range p.length).map fun i => p.take i
  ancestors.findSome? fun a =>
    match t.find? a with
    | none => some .notFound
    | some (.dir _) => none
    | some _ => some .notDir

/-- Reads a file. -/
def bytesAt (t : FileTree) (p : Path) : Except FsError (List UInt8) :=
  match t.parentProblem p with
  | some c => .error ⟨"open", p, c⟩
  | none =>
    match t.find? p with
    | none => .error ⟨"open", p, .notFound⟩
    | some (.dir _) => .error ⟨"read", p, .isDir⟩
    | some (.file id _) => .ok (t.content id)
    | some (.socket _) => .error ⟨"open", p, .noDevice⟩

/-- The file number at a path, if it is a file. -/
def fileId? (t : FileTree) (p : Path) : Option Nat :=
  match t.find? p with
  | some (.file id _) => some id
  | _ => none

/-- Sets the entry of a path. -/
def put (t : FileTree) (p : Path) (e : Entry) : FileTree :=
  if t.entries.any (·.1 == p) then
    { t with entries := t.entries.map fun (q, f) => if q == p then (q, e) else (q, f) }
  else { t with entries := t.entries ++ [(p, e)] }

/-- Sets the content of a file number. -/
def putContent (t : FileTree) (id : Nat) (data : List UInt8) : FileTree :=
  if t.contents.any (·.1 == id) then
    { t with contents := t.contents.map fun (i, d) => if i == id then (i, data) else (i, d) }
  else { t with contents := t.contents ++ [(id, data)] }

/-- Writes a file, creating it or replacing its content in place. -/
def putBytes (t : FileTree) (p : Path) (data : List UInt8) (mtime : Instant) :
    Except FsError FileTree :=
  match t.parentProblem p with
  | some c => .error ⟨"open", p, c⟩
  | none =>
    match t.find? p with
    | some (.dir _) => .error ⟨"open", p, .isDir⟩
    | some (.socket _) => .error ⟨"open", p, .noDevice⟩
    | some (.file id _) => .ok ((t.putContent id data).put p (.file id mtime))
    | none =>
      let id := t.nextId
      .ok ({ (t.putContent id data).put p (.file id mtime) with nextId := id + 1 })

/-- Appends to a file, creating it when missing. -/
def appendBytes (t : FileTree) (p : Path) (data : List UInt8) (mtime : Instant) :
    Except FsError FileTree :=
  match t.find? p with
  | some (.file id _) => .ok ((t.putContent id (t.content id ++ data)).put p (.file id mtime))
  | _ => t.putBytes p data mtime

/-- Creates a directory and its missing ancestors, each with the given time. -/
def mkdirAll (t : FileTree) (p : Path) (mtime : Instant) : Except FsError FileTree :=
  ((List.range p.length).map (fun i => p.take (i + 1))).foldlM (fun (t : FileTree) a =>
    match t.find? a with
    | some (.dir _) => .ok t
    | some _ => .error ⟨"mkdir", a, .notDir⟩
    | none => .ok (t.put a (.dir mtime))) t

/-- Whether `q` is `p` or below it. -/
def under (p q : Path) : Bool := p.isPrefixOf q

/-- Removes a path and everything below it; a missing path is no error. -/
def remove (t : FileTree) (p : Path) : FileTree :=
  { t with entries := t.entries.filter fun (q, _) => !under p q }

/-- Moves a path, and everything below it, to another path, replacing what was there: a file or
a socket may replace a file or a socket, a directory an empty directory. -/
def rename (t : FileTree) (src dst : Path) : Except FsError FileTree :=
  match t.find? src with
  | none => .error ⟨"rename", src, .notFound⟩
  | some e =>
    match t.parentProblem dst, e, t.find? dst with
    | some c, _, _ => .error ⟨"rename", dst, c⟩
    | none, .file _ _, some (.dir _) | none, .socket _, some (.dir _) =>
      .error ⟨"rename", dst, .isDir⟩
    | none, .dir _, some (.file _ _) | none, .dir _, some (.socket _) =>
      .error ⟨"rename", dst, .notDir⟩
    | none, .dir _, some (.dir _) =>
      if src ≠ dst ∧ t.entries.any (fun (q, _) => q.length > dst.length ∧ dst.isPrefixOf q) then
        .error ⟨"rename", dst, .notEmpty⟩
      else
        let moved := t.entries.filterMap fun (q, e) =>
          if under src q then some (dst ++ q.drop src.length, e) else none
        let kept := t.entries.filter fun (q, _) => !under src q && !under dst q
        .ok { t with entries := kept ++ moved }
    | none, _, _ =>
      let moved := t.entries.filterMap fun (q, e) =>
        if under src q then some (dst ++ q.drop src.length, e) else none
      let kept := t.entries.filter fun (q, _) => !under src q && !under dst q
      .ok { t with entries := kept ++ moved }

/-- Sets the modification time of a path. -/
def setMtime (t : FileTree) (p : Path) (mtime : Instant) : FileTree :=
  match t.find? p with
  | some (.file id _) => t.put p (.file id mtime)
  | some (.dir _) => t.put p (.dir mtime)
  | some (.socket _) => t.put p (.socket mtime)
  | none => t

/-- Puts a named entry before the first entry whose name is not smaller. -/
def insertByName (c : String × Entry) : List (String × Entry) → List (String × Entry)
  | [] => [c]
  | d :: rest => if c.1 ≤ d.1 then c :: d :: rest else d :: insertByName c rest

/-- Named entries in name order, entries of one name in their first order. -/
def sortByName (cs : List (String × Entry)) : List (String × Entry) := cs.foldr insertByName []

/-- The entries directly inside a directory, by name. -/
def children (t : FileTree) (p : Path) : Except FsError (List (String × Entry)) :=
  match t.find? p with
  | none => .error ⟨"open", p, .notFound⟩
  | some (.file _ _) | some (.socket _) => .error ⟨"open", p, .notDir⟩
  | some (.dir _) =>
    let cs := t.entries.filterMap fun (q, e) =>
      if q.length = p.length + 1 ∧ p.isPrefixOf q then some (q.getLastD "", e) else none
    .ok (sortByName cs)

/-- The size of a file, or zero. -/
def size (t : FileTree) (p : Path) : Nat :=
  match t.find? p with
  | some (.file id _) => (t.content id).length
  | _ => 0

end FileTree

end QuotaWatch
