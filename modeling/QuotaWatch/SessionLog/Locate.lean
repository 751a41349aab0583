import QuotaWatch.Files.Tree
/-!
**Finding the newest session log.**

Session logs are `.jsonl` files below a root; names starting with a dot are hidden. The newest is
looked for among the loose logs of the root and inside the most recently modified session
directories (at most `maxDirs`, 25 when not positive), and only when none is found there in a walk
of the whole tree in name order; ties go to the first found. A missing root has no log; an
unlistable root is an error.
-/

namespace QuotaWatch

namespace SessionLog

/-- Whether a name is hidden. -/
def isHidden (name : String) : Bool := name.startsWith "."

/-- Whether a name is a log's. -/
def isLogName (name : String) : Bool := name.endsWith ".jsonl"

/-- A path with its modification time. -/
abbrev Found := Path × Instant

/-- The first of the newest: a later one replaces the best only when strictly newer. -/
def newestOf (best : Option Found) (c : Found) : Option Found :=
  match best with
  | some b => if c.2.after b.2 then some c else some b
  | none => some c

/-- The newest regular, visible log directly inside a directory: directories and sockets are
passed over. -/
def newestInDir (t : FileTree) (dir : Path) : Option Found :=
  match t.children dir with
  | .error _ => none
  | .ok es =>
    es.foldl (fun best (n, e) =>
      match e with
      | .file _ m => if !isHidden n && isLogName n then newestOf best (dir ++ [n], m) else best
      | .dir _ | .socket _ => best) none

/-- The newest visible log anywhere below a directory, walking names in order and skipping
hidden directories; any entry that is not a directory is a log when its name is, sockets too.
`fuel` bounds the depth. -/
def walkNewest (t : FileTree) (fuel : Nat) (dir : Path) (best : Option Found) : Option Found :=
  match fuel with
  | 0 => best
  | fuel + 1 =>
    match t.children dir with
    | .error _ => best
    | .ok es =>
      es.foldl (fun best (n, e) =>
        if isHidden n then best
        else match e with
          | .dir _ => walkNewest t fuel (dir ++ [n]) best
          | e => if isLogName n then newestOf best (dir ++ [n], e.mtime) else best) best

end SessionLog

/-- Where session logs are looked for. -/
structure Locator where
  root : Path
  maxDirs : Int := 25
  deriving Inhabited

namespace Locator

open SessionLog

/-- Sorts newest first, keeping the order of equal times. -/
def newestFirst (cs : List Found) : List Found := cs.mergeSort fun a b => !(b.2.after a.2)

/-- The newest log, if there is any; an error when the root cannot be listed. -/
def latest (l : Locator) (t : FileTree) : Except FsError (Option Path) :=
  match t.children l.root with
  | .error e => if e.cause = .notFound then .ok none else .error { e with op := "readdirent" }
  | .ok es =>
    let visible := es.filter fun (n, _) => !isHidden n
    let dirs := newestFirst (visible.filterMap fun (n, e) =>
      if e.isDir then some (l.root ++ [n], e.mtime) else none)
    let files := newestFirst (visible.filterMap fun (n, e) =>
      if !e.isDir && isLogName n then some (l.root ++ [n], e.mtime) else none)
    let cap := if l.maxDirs ≤ 0 then 25 else l.maxDirs.toNat
    let best := (dirs.take cap).foldl (fun best d =>
      match newestInDir t d.1 with
      | some c =>
        match best with
        | some b => if c.2.after b.2 then some c else some b
        | none => some c
      | none => best) files.head?
    match best with
    | some b => .ok (some b.1)
    | none => .ok ((walkNewest t (t.entries.length + 1) l.root none).map (·.1))

end Locator

end QuotaWatch
