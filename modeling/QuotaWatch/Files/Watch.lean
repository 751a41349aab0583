import QuotaWatch.Files.Change
/-!
**Watching a tree and some files for changes, with a quiet period.**

A watcher calls back once activity on a tree and some files has been quiet for its debounce
delay. Native notifications watch every directory outside dot-named ones (and new ones in turn),
triggering on creations and writes; polling compares a fingerprint of the files every interval.
Time passes only when the watcher is told to advance; a cancelled watcher never calls back.
-/

namespace QuotaWatch

/-- How a watcher learns of changes. -/
inductive WatchMode where
  | native
  | poll
  deriving DecidableEq, Inhabited, Repr

/-- What is watched, and how often and after how much quiet the watcher acts. -/
structure WatchSpec where
  /-- The tree; `none` watches no tree. -/
  root : Option Path
  files : List Path := []
  debounce : Duration
  /-- The polling interval. -/
  interval : Duration := Duration.second
  deriving Inhabited

/-- What polling compares: the newest modification time in nanoseconds since 1970, the total
size and the number of files. -/
structure Fingerprint where
  newest : Int := 0
  size : Nat := 0
  count : Nat := 0
  deriving DecidableEq, Inhabited, Repr

/-- Why a watcher could not subscribe: what it tried to watch, and what went wrong. -/
structure WatchError where
  target : String
  cause : String
  deriving Inhabited

/-- The message of a failed subscription. -/
def WatchError.message (e : WatchError) : String := "failed to watch " ++ e.target ++ ": " ++ e.cause

/-- Adds an entry to a fingerprint. -/
def Fingerprint.add (fp : Fingerprint) (t : FileTree) (p : Path) (e : Entry) : Fingerprint :=
  let m := e.mtime
  { newest := max fp.newest (m.unixSec * 1000000000 + m.nsec), size := fp.size + t.size p,
    count := fp.count + 1 }

namespace FileTree

/-- Whether `q` lies strictly below `start` with no dot-named entry from there down. -/
def visibleBelow (start q : Path) : Bool :=
  q.length > start.length && start.isPrefixOf q && !(q.drop start.length).any (·.startsWith ".")

/-- The directories a native watcher adds for `start`: itself, and every directory below it
outside dot-named directories. -/
def watchDirs (t : FileTree) (start : Path) : List Path :=
  start :: t.entries.filterMap fun (q, e) => if e.isDir && visibleBelow start q then some q else none

/-- The fingerprint of a tree's visible regular files (or of the root itself when it is a file)
and of the single files that exist. -/
def fingerprint (t : FileTree) (root : Option Path) (files : List Path) : Fingerprint :=
  let inTree : List (Path × Entry) := match root with
    | none => []
    | some r => match t.find? r with
      | some (.dir _) | none => t.entries.filter fun (q, e) => !e.isDir && visibleBelow r q
      | some e => [(r, e)]
  let single := files.filterMap fun f => (t.find? f).map (f, ·)
  (inTree ++ single).foldl (fun fp (p, e) => fp.add t p e) {}

end FileTree

/-- A spec with its defaults in place of delays that are not positive: three seconds of quiet
for notifications, one millisecond for polling, and polls five seconds apart. -/
def WatchSpec.withDefaults (spec : WatchSpec) (mode : WatchMode) : WatchSpec :=
  let orElse := fun (d dflt : Duration) => if d.toInt ≤ 0 then dflt else d
  { spec with
    debounce := orElse spec.debounce (if mode = .poll then Duration.millisecond else Duration.scale 3 Duration.second),
    interval := orElse spec.interval (Duration.scale 5 Duration.second) }

/-- A subscription to changes. -/
structure Watcher where
  spec : WatchSpec
  mode : WatchMode
  /-- The watched directories (native notifications). -/
  dirs : List Path := []
  /-- The last fingerprint (polling). -/
  last : Fingerprint := {}
  started : Instant
  clock : Instant
  /-- When the pending call is due. -/
  deadline : Option Instant := none
  /-- How many calls were made. -/
  fired : Nat := 0
  stopped : Bool := false
  deriving Inhabited

namespace Watcher

/-- Why `p` cannot be looked at: a missing or non-directory ancestor, or its absence. -/
def lookProblem (t : FileTree) (p : Path) : Option FsCause :=
  match t.parentProblem p with
  | some c => some c
  | none => if t.exists_ p then none else some .notFound

/-- Starts watching at `now`. -/
def subscribe (mode : WatchMode) (spec : WatchSpec) (t : FileTree) (now : Instant) :
    Except WatchError Watcher :=
  let spec := spec.withDefaults mode
  match mode with
  | .poll => .ok { spec, mode, last := t.fingerprint spec.root spec.files, started := now, clock := now }
  | .native => do
    let tree ← match spec.root with
      | none => pure []
      | some r => match lookProblem t r with
        | some c => throw ⟨r.text, "lstat " ++ r.text ++ ": " ++ c.text⟩
        | none => pure (if t.isDir r then t.watchDirs r else [])
    let fileDirs ← spec.files.mapM fun f => match lookProblem t f.parent with
      | some c => throw ⟨f.text, c.text⟩
      | none => pure f.parent
    return { spec, mode, dirs := tree ++ fileDirs, started := now, clock := now }

/-- Restarts the quiet period at time `at_`. -/
def triggerAt (w : Watcher) (at_ : Instant) : Watcher :=
  if w.stopped then w else { w with deadline := some (at_.add w.spec.debounce) }

/-- Makes the pending call. -/
def fire (w : Watcher) : Watcher := { w with fired := w.fired + 1, deadline := none }

/-- Whether a path lies in the watched tree. -/
def inTree (w : Watcher) (p : Path) : Bool :=
  match w.spec.root with
  | some r => r.isPrefixOf p
  | none => false

/-- Hears one notification, with `t` the tree after the change. -/
def notice (w : Watcher) (t : FileTree) (c : Change) : Watcher :=
  let heard := w.dirs.contains c.path.parent || w.dirs.contains c.path
  if w.stopped || w.mode = .poll || !heard then w
  else
    let w := if c.kind = .remove || c.kind = .rename then
        { w with dirs := w.dirs.filter fun d => !c.path.isPrefixOf d } else w
    if w.spec.files.contains c.path then w.triggerAt w.clock
    else if !w.inTree c.path then w
    else
      let w := if c.kind = .create && t.isDir c.path then { w with dirs := w.dirs ++ t.watchDirs c.path }
        else w
      if c.kind = .create || c.kind = .write then w.triggerAt w.clock else w

/-- Hears notifications in order. -/
def noticeAll (w : Watcher) (t : FileTree) (cs : List Change) : Watcher :=
  cs.foldl (fun w c => w.notice t c) w

/-- The first polling instant after the watcher's clock. -/
def nextTick (w : Watcher) : Instant :=
  let every := max 1 w.spec.interval.toInt
  let elapsed := (w.clock.sub w.started).toInt
  w.started.add (Duration.ofInt ((elapsed / every + 1) * every))

/-- Lets time pass up to `target`, over a tree that does not change meanwhile: a poll that
finds a new fingerprint triggers, and a call that falls due is made. -/
def advance (w : Watcher) (t : FileTree) (target : Instant) : Watcher :=
  let cur := t.fingerprint w.spec.root w.spec.files
  let w :=
    if w.stopped || w.mode = .native || cur = w.last then w
    else
      let tick := w.nextTick
      if target.before tick then w
      else
        let w := match w.deadline with
          | some d => if tick.before d then w else w.fire
          | none => w
        { w with last := cur }.triggerAt tick
  let w := match w.deadline with
    | some d => if !w.stopped && !target.before d then w.fire else w
    | none => w
  { w with clock := target }

/-- When the watcher calls next if the tree stays as it is. -/
def nextCall (w : Watcher) (t : FileTree) : Option Instant :=
  if w.stopped then none
  else if w.mode = .poll && t.fingerprint w.spec.root w.spec.files ≠ w.last then
    let tick := w.nextTick
    match w.deadline with
    | some d => if tick.before d then some (tick.add w.spec.debounce) else some d
    | none => some (tick.add w.spec.debounce)
  else w.deadline

/-- Stops watching; a pending call is dropped. -/
def cancel (w : Watcher) : Watcher := { w with stopped := true, deadline := none }

end Watcher

end QuotaWatch
