import QuotaWatch.Quota.Cycle
/-!
**Folding readings into snapshots.**

A usage event with both windows becomes a snapshot captured at the event's time; an event
missing a window is incomplete. A new snapshot is folded into the previous one: a snapshot
captured before the previous one is ignored; otherwise each window is replaced by the new one,
except that an assumed-reset window survives a reading captured before its cycle began, as that
reading still describes the cycle before.
-/

namespace QuotaWatch

/-- Why a usage event gives no snapshot. -/
inductive SnapshotError where
  | incomplete
  deriving DecidableEq, Repr

/-- The message of a snapshot error. -/
def SnapshotError.message : SnapshotError → String
  | .incomplete => "usage event is missing a rate limit window"

/-- The window of one rate-limit reading. -/
def Window.ofLimit (kind : WindowKind) (rl : RateLimit) : Window :=
  { kind, usedPercent := rl.usedPercent, windowMinutes := rl.windowMinutes, resetsAt := rl.resetsAt }

/-- The snapshot of an event with both windows. -/
def Snapshot.ofEvent (ev : Option UsageEvent) (source : String) : Except SnapshotError Snapshot :=
  match ev with
  | some { timestamp, primary := some p, secondary := some s } =>
    .ok { capturedAt := timestamp, source, fiveHour := .ofLimit .fiveHour p,
          weekly := .ofLimit .weekly s }
  | _ => .error .incomplete

/-- The window after a reading observed at `observedAt`: the new one, unless the previous one
is assumed reset and the reading predates its cycle. -/
def Window.merge (prev next : Window) (observedAt : Instant) : Window :=
  if prev.assumedReset && observedAt.before prev.cycleStart then prev else next

namespace Snapshot

/-- Folds `next` into `prev`; the flag says whether the result differs from `prev`. -/
def merge (prev : Option Snapshot) (next : Snapshot) : Snapshot × Bool :=
  match prev with
  | none => (next, true)
  | some p =>
    if next.capturedAt.before p.capturedAt then (p, false)
    else
      let m := { next with fiveHour := p.fiveHour.merge next.fiveHour next.capturedAt,
                           weekly := p.weekly.merge next.weekly next.capturedAt }
      (m, !m.same p)

end Snapshot

end QuotaWatch
