import QuotaWatch.Quota.Document
import QuotaWatch.Accounts.Config
import QuotaWatch.Files.Tree
/-!
**The state file, its backups, and adopting older state directories.**

The state is one sorted, indented JSON file. A save first backs the file up to
`backups/state-<UTC stamp>.json` when accounts shrink or the newest backup is at least the
interval old, keeping the newest `maxBackups`; a failed backup never stops the save. A new store
may adopt the sibling `codexhud` directory with the most accounts. Files are written through a
renamed temporary file; refused calls and the clock are arguments.
-/

namespace QuotaWatch

/-- Why a store operation failed. -/
inductive StoreError where
  /-- The state directory could not be made, with the cause. -/
  | directoryUnavailable (cause : String)
  /-- The state file could not be read or decoded, with the cause. -/
  | failedToRead (cause : String)
  /-- The state could not be encoded or written, with the cause. -/
  | failedToWrite (cause : String)
  /-- The new account list was refused. -/
  | refused (e : ConfigError)
  deriving Inhabited

/-- Backup policy and whether older state directories are adopted. -/
structure StoreOptions where
  backupInterval : Duration := Duration.scale 6 Duration.hour
  maxBackups : Int := 10
  adoptLegacy : Bool := true
  deriving Inhabited

/-- A state file at `dir / file`. -/
structure Store where
  dir : Path
  file : String := "state.json"
  options : StoreOptions := {}
  deriving Inhabited

/-- The stamp in backup names: `20060102T150405.000Z`, in UTC. -/
def backupStamp : List StampPart :=
  [.year, .month, .day, .lit "T", .hour, .minute, .second, .millis, .lit "Z"]

/-- The text of the state file for a state: sorted keys, two-space indentation, final line
feed. -/
def encodeStateFile (s : AppState) : Except EncodeError String := do
  let doc ← s.toDoc
  return Json.pretty true "  " 0 (Json.sortKeys doc) ++ "\n"

/-- The calls of a write through a temporary file, in the order they are made. -/
inductive WriteStep where
  | create
  | write
  | sync
  | close
  | chmod
  | rename
  deriving DecidableEq, Repr

/-- The name of a call in its failure. -/
def WriteStep.op : WriteStep → String
  | .create => "open"
  | .write => "write"
  | .sync => "sync"
  | .close => "close"
  | .chmod => "chmod"
  | .rename => "rename"

/-- A call of a write that the system refuses, and why. -/
structure WriteFault where
  step : WriteStep
  cause : FsCause := .io
  deriving DecidableEq, Repr

/-- The temporary file of try `n` of a write to `p`: `.<name>.<n>.tmp` beside it. The number
stands for the random part of the name, which is never seen after the write. -/
def tempPath (p : Path) (n : Nat) : Path := p.parent ++ ["." ++ p.base ++ "." ++ toString n ++ ".tmp"]

/-- The first of `tries` tries from try `n` whose temporary file beside `p` names nothing. -/
def FileTree.freeTemp (t : FileTree) (p : Path) : Nat → Nat → Option Path
  | 0, _ => none
  | tries + 1, n => if t.exists_ (tempPath p n) then t.freeTemp p tries (n + 1) else some (tempPath p n)

/-- Writes a file whole: a temporary file beside it, on a name no file has, is created,
written, synced, closed and made private, then renamed over it, and at the end the temporary
file is removed whatever happened. `fault` is the call the system refuses, if any; a directory
in the way of the rename is not replaced. The tree is returned as far as the write got, with
the failure. -/
def FileTree.writeAtomic (t : FileTree) (p : Path) (data : List UInt8) (now : Instant)
    (fault : Option WriteFault) : FileTree × Option FsError :=
  match t.freeTemp p 10000 0 with
  | none => (t, some ⟨"createtemp", p, .exists_⟩)
  | some tmp =>
    match fault with
    | some ⟨.create, c⟩ => (t, some ⟨"open", tmp, c⟩)
    | some ⟨step, c⟩ =>
      -- a later call is refused: the temporary file was made, and is removed
      match t.putBytes tmp data now with
      | .error e => (t, some e)
      | .ok t => (t.remove tmp, some ⟨step.op, tmp, c⟩)
    | none =>
      match t.putBytes tmp data now with
      | .error e => (t, some e)
      | .ok t =>
        match t.rename tmp p with
        | .error e => (t.remove tmp, some e)
        | .ok t => (t.remove tmp, none)

/-- The calls a save has refused, if any: in the write of the backup, and in the write of the
state file. -/
structure SaveFaults where
  backup : Option WriteFault := none
  state : Option WriteFault := none
  deriving DecidableEq, Repr

namespace Store

/-- The path of the state file. -/
def path (s : Store) : Path := s.dir ++ [s.file]

/-- The backup directory. -/
def backupDir (s : Store) : Path := s.dir ++ ["backups"]

/-- The state in the file at `p`: `none` when there is no file. -/
def readStateAt (t : FileTree) (p : Path) : Except StoreError (Option AppState) :=
  match t.bytesAt p with
  | .error e => match e.cause with
    | .notFound => .ok none
    | _ => .error (.failedToRead e.message)
  | .ok data =>
    match AppState.ofBytes data with
    | .ok st => .ok (some st)
    | .error e => .error (.failedToRead (p.text ++ ": " ++ e.message))

/-- The stored state, or `none` when no state file exists. -/
def load (s : Store) (t : FileTree) : Except StoreError (Option AppState) := readStateAt t s.path

/-- The names of the backups, in name order, which is time order. -/
def backupNames (s : Store) (t : FileTree) : Except FsError (List String) :=
  match t.children s.backupDir with
  | .error e => match e.cause with
    | .notFound => .ok []
    | _ => .error e
  | .ok cs =>
    .ok (cs.filterMap fun (n, e) =>
      if !e.isDir && n.startsWith "state-" && n.endsWith ".json" then some n else none)

/-- The time of the newest backup: from its name, or its modification time. -/
def latestBackup (s : Store) (t : FileTree) : Option Instant :=
  match s.backupNames t with
  | .ok names@(_ :: _) =>
    let newest := names.getLastD ""
    let inner := newest.toList.drop 6
    let stamp := String.ofList (inner.take (inner.length - 5))
    match Instant.parseStamp? backupStamp stamp with
    | some at_ => some at_
    | none => (t.find? (s.backupDir ++ [newest])).map Entry.mtime
  | _ => none

/-- The name of the backup made at `now`: its UTC stamp, to the millisecond. -/
def backupName (now : Instant) : String := "state-" ++ now.utc.stamp backupStamp ++ ".json"

/-- Removes the oldest backups beyond the limit. -/
def prune (s : Store) (t : FileTree) : Except FsError FileTree := do
  if s.options.maxBackups ≤ 0 then return t
  let names ← s.backupNames t
  let extra := names.length - s.options.maxBackups.toNat
  return (names.take extra).foldl (fun t n => t.remove (s.backupDir ++ [n])) t

/-- Whether a save of `newCount` accounts makes no backup: it does not shrink the account list
of the current file, and the newest backup is younger than the interval. -/
def backupThrottled (s : Store) (t : FileTree) (now : Instant) (newCount : Nat) : Bool :=
  let shrinking := match readStateAt t s.path with
    | .ok (some prev) => newCount < prev.accounts.length
    | _ => true
  let recent := match s.latestBackup t with
    | some latest => (now.sub latest) < s.options.backupInterval
    | none => false
  !shrinking && recent

/-- Copies the state file into the backups when due, for a save of `newCount` accounts, the
backup's write refusing the call `fault` if any. On a failure the tree is returned as far as it
got, with the failure. -/
def backup (s : Store) (t : FileTree) (now : Instant) (newCount : Nat) (fault : Option WriteFault) :
    FileTree × Option FsError :=
  match t.bytesAt s.path with
  | .error e => match e.cause with
    | .notFound => (t, none)
    | _ => (t, some e)
  | .ok data =>
    if s.backupThrottled t now newCount then (t, none)
    else
      match t.mkdirAll s.backupDir now with
      | .error e => (t, some e)
      | .ok t =>
        match t.writeAtomic (s.backupDir ++ [backupName now]) data now fault with
        | (t, some e) => (t, some e)
        | (t, none) =>
          match s.prune t with
          | .error e => (t, some e)
          | .ok t => (t, none)

/-- Saves a state, the system refusing the calls `faults` names: backs up the current file
when due, then replaces it; a failed backup does not stop the save. The tree is returned as far
as the save got. -/
def saveWith (s : Store) (faults : SaveFaults) (t : FileTree) (now : Instant) (st : AppState) :
    FileTree × Except StoreError Unit :=
  match encodeStateFile st with
  | .error e => (t, .error (.failedToWrite e.message))
  | .ok text =>
    let t := (s.backup t now st.accounts.length faults.backup).1
    match t.writeAtomic s.path (Utf8.bytesOf text) now faults.state with
    | (t, some e) => (t, .error (.failedToWrite e.message))
    | (t, none) => (t, .ok ())

/-- Saves a state: backs up the current file when due, then replaces it. -/
def save (s : Store) (t : FileTree) (now : Instant) (st : AppState) : Except StoreError FileTree :=
  match s.saveWith {} t now st with
  | (t, .ok ()) => .ok t
  | (_, .error e) => .error e

/-- Loads the state (or a new one), applies `f` and saves the result, the system refusing the
calls `faults` names; nothing is written when the load or `f` fails. -/
def updateWith (s : Store) (faults : SaveFaults) (t : FileTree) (now : Instant)
    (f : AppState → Except StoreError AppState) : FileTree × Except StoreError AppState :=
  match s.load t with
  | .error e => (t, .error e)
  | .ok st =>
    match f (st.getD {}) with
    | .error e => (t, .error e)
    | .ok st =>
      match s.saveWith faults t now st with
      | (t, .ok ()) => (t, .ok st)
      | (t, .error e) => (t, .error e)

/-- Loads the state (or a new one), applies `f` and saves the result; nothing is written when
`f` fails. -/
def update (s : Store) (t : FileTree) (now : Instant)
    (f : AppState → Except StoreError AppState) : Except StoreError (AppState × FileTree) :=
  match s.updateWith {} t now f with
  | (t, .ok st) => .ok (st, t)
  | (_, .error e) => .error e

end Store

/-- Whether a sibling directory may hold older state: its name, lowercased and without
dashes, contains `codexhud`. -/
def legacyMatch (name : String) : Bool :=
  let n := String.ofList ((name.toList.filter (· ≠ '-')).map Char.toLower)
  (n.splitOn "codexhud").length > 1

namespace Store

/-- The state among the sibling directories with more accounts than the current file, the
first in name order among those with the most. -/
def legacyCandidate (s : Store) (t : FileTree) : Option AppState :=
  match t.children s.dir.parent, readStateAt t s.path with
  | .ok entries, .ok current =>
    let start : Int := match current with
      | some c => c.accounts.length
      | none => -1
    let best := entries.foldl (fun (acc : Int × Option AppState) (name, e) =>
      if !e.isDir || name = s.dir.base || name.startsWith "." || !legacyMatch name then acc
      else match readStateAt t (s.dir.parent ++ [name, s.file]) with
        | .ok (some st) => if (st.accounts.length : Int) > acc.1 then (st.accounts.length, some st) else acc
        | _ => acc) (start, none)
    best.2
  | _, _ => none

/-- Opens a store: creates its directory, then adopts older state when enabled. -/
def create (s : Store) (t : FileTree) (now : Instant) : Except StoreError FileTree :=
  match t.mkdirAll s.dir now with
  | .error e => .error (.directoryUnavailable e.message)
  | .ok t =>
    if !s.options.adoptLegacy then .ok t
    else match s.legacyCandidate t with
      | some st => s.save t now st
      | none => .ok t

end Store

end QuotaWatch
