import QuotaWatch.Service.Manager
import QuotaWatch.Files.Watch
/-!
**The service running in the background.**

Once started, the service prunes history rows older than ninety days, refreshes, and watches the
session logs and credential file, natively when asked and available, else by polling. Every
watcher call and every interval tick refreshes; a failed refresh is reported to subscribers as a
failure of the `refresh` service. Time moves only when the service is told to advance.
-/

namespace QuotaWatch

/-- Refreshes, reporting a failure to the subscribers. -/
def Manager.refreshAndReport (m : Manager) (s : Surroundings) : Manager :=
  match m.refresh s with
  | (m, .ok _) => m
  | (m, .error e) => m.broadcast (.failed "refresh" e.message)

/-- The running service: the manager, its watcher if watching could start, and its clock. -/
structure ServiceLoop where
  manager : Manager
  watcher : Option Watcher
  /-- The refresh interval. -/
  interval : Duration
  clock : Instant
  /-- When the next interval refresh is due. -/
  nextRefresh : Instant

namespace ServiceLoop

/-- Starts at `clock`: prunes, refreshes, and starts watching, falling back to polling when
native notifications cannot be set up. -/
def start (m : Manager) (s : Surroundings) (mode : WatchMode) (spec : WatchSpec)
    (interval : Duration) (clock : Instant) : ServiceLoop :=
  let m := (m.prune s.now).refreshAndReport s
  let t := m.backend.files
  let w := match Watcher.subscribe mode spec t clock with
    | .ok w => some w
    | .error _ => if mode = .native then (Watcher.subscribe .poll spec t clock).toOption else none
  let every := if interval.toInt ≤ 0 then Duration.hour else interval
  { manager := m, watcher := w, interval := every, clock, nextRefresh := clock.add every }

/-- The files the service watches. -/
def files (l : ServiceLoop) : FileTree := l.manager.backend.files

/-- Applies a file operation at the service's clock and lets the watcher hear of it. -/
def change (l : ServiceLoop) (op : FsOp) : ServiceLoop :=
  match op.apply l.files l.clock with
  | .error _ => l
  | .ok (t, cs) =>
    let m := l.manager
    let w := l.watcher.map fun w => { w with clock := l.clock }.noticeAll t cs
    { l with manager := { m with backend := { m.backend with files := t } }, watcher := w }

/-- Lets the watcher run up to `target`, refreshing once if it called. -/
def runWatcher (l : ServiceLoop) (s : Surroundings) (target : Instant) : ServiceLoop :=
  match l.watcher with
  | none => { l with clock := target }
  | some w =>
    let w2 := w.advance l.files target
    let m := if w2.fired > w.fired then l.manager.refreshAndReport s else l.manager
    { l with watcher := some w2, manager := m, clock := target }

/-- Lets time pass up to `target`, with at most `fuel` interval refreshes on the way. -/
def advanceWith (l : ServiceLoop) (s : Surroundings) (target : Instant) : Nat → ServiceLoop
  | 0 => l.runWatcher s target
  | n + 1 =>
    if target.before l.nextRefresh then l.runWatcher s target
    else
      let l := l.runWatcher s l.nextRefresh
      let next := l.nextRefresh.add l.interval
      let l := { l with manager := l.manager.refreshAndReport s, nextRefresh := next }
      advanceWith l s target n

/-- Lets time pass up to `target`. -/
def advance (l : ServiceLoop) (s : Surroundings) (target : Instant) : ServiceLoop :=
  l.advanceWith s target 64

/-- When something happens next if nothing changes: a call of the watcher or an interval
refresh. -/
def nextWake (l : ServiceLoop) : Instant :=
  match l.watcher.bind (·.nextCall l.files) with
  | some c => if c.before l.nextRefresh then c else l.nextRefresh
  | none => l.nextRefresh

/-- Waits at most `limit` for subscriber `sub` to have an event: time stops as soon as one is
there. -/
def await (l : ServiceLoop) (s : Surroundings) (sub : Nat) (limit : Duration) : ServiceLoop :=
  if l.manager.pending sub then l
  else
    let wake := l.nextWake
    let last := l.clock.add limit
    if last.before wake then l.advance s last else l.advance s wake

/-- Stops the service: the watcher is cancelled and the subscriptions closed. -/
def stop (l : ServiceLoop) : ServiceLoop :=
  { l with watcher := l.watcher.map Watcher.cancel, manager := l.manager.close }

end ServiceLoop

end QuotaWatch
