import QuotaWatch.Quota.Window
/-!
**Window cycles and assumed resets.**

A window whose reset time has come without a new reading is assumed reset: zero usage, stale, and
its reset moved by whole window lengths to the first strictly after now. An assumed window keeps
its values until a reading replaces it; one without a positive length resets at now. The move
jumps by whole cycles in 64-bit durations (which may wrap), then steps one length at a time, in
closed form here.
-/

namespace QuotaWatch

namespace Instant

/-- Nanoseconds since `0001-01-01T00:00:00Z`. -/
def totalNanos (t : Instant) : Int := t.sec * 1000000000 + t.nsec

/-- The instant of a nanosecond count, shown in the zone of offset `off`. -/
def ofTotalNanos (n : Int) (off : Int) : Instant := ⟨n / 1000000000, (n % 1000000000).toNat, off⟩

end Instant

/-- From `next`, steps of length `step > 0` until strictly after `now`: the result is
`next + k·step` for the least `k ≥ 0` that passes `now`. -/
def stepPast (next : Instant) (step : Duration) (now : Instant) : Instant :=
  if next.after now then next
  else
    let s := step.toInt
    let k := (now.totalNanos - next.totalNanos) / s + 1
    Instant.ofTotalNanos (next.totalNanos + k * s) next.offset

/-- The reset time after `from` that first passes `now`, in whole steps; `now` itself for a
step that is not positive, and `from` when it is already after `now`. -/
def rollForward (from_ : Instant) (step : Duration) (now : Instant) : Instant :=
  if step.toInt ≤ 0 then now
  else if from_.after now then from_
  else
    let cycles : Int64 := (now.sub from_).nanos / step.nanos + 1
    let next := from_.add ⟨step.nanos * cycles⟩
    stepPast next step now

namespace Window

/-- The window at `now`: unchanged while its reset time is ahead or once it is assumed reset;
otherwise zero usage, stale, assumed reset, and the next reset after `now`. The flag says
whether it changed. -/
def normalize (w : Window) (now : Instant) : Window × Bool :=
  if now.before w.resetsAt || w.assumedReset then (w, false)
  else
    let w' := { w with usedPercent := 0, isStale := true, assumedReset := true }
    ({ w' with resetsAt := rollForward w.resetsAt w.length now }, true)

/-- The start of the cycle a window describes: its reset time less its length. -/
def cycleStart (w : Window) : Instant := w.resetsAt.add (-w.length)

end Window

/-- Both windows at `now`; the snapshot is returned as it was when neither changed. -/
def Snapshot.normalize (s : Snapshot) (now : Instant) : Snapshot :=
  let (f, fc) := s.fiveHour.normalize now
  let (w, wc) := s.weekly.normalize now
  if !fc && !wc then s else { s with fiveHour := f, weekly := w }

end QuotaWatch
