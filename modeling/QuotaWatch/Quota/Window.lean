import QuotaWatch.Quota.Percent
import QuotaWatch.Time.Instant
/-!
**Quota windows, snapshots and usage events.**

An account has two rolling quota windows: the short *5-hour* window and the long *weekly*
window. The state of one window is how much of it is used, how long it lasts, and when it
resets; two flags record that the reading is stale, and that the reset was assumed from the
clock rather than observed. A snapshot is both windows at one capture time, and a usage event
is one reading from a session log, of which either window may be missing.
-/

namespace QuotaWatch

/-- Which window: the two known ones by name, any other by its text. -/
inductive WindowKind where
  | fiveHour
  | weekly
  | other (name : String)
  deriving DecidableEq, Inhabited, Repr

namespace WindowKind

/-- The stored name of a kind. -/
def name : WindowKind → String
  | .fiveHour => "fiveHour"
  | .weekly => "weekly"
  | .other s => s

/-- The kind of a stored name. -/
def ofName (s : String) : WindowKind :=
  if s = "fiveHour" then .fiveHour else if s = "weekly" then .weekly else .other s

/-- The label shown to people; unknown kinds show their name. -/
def label : WindowKind → String
  | .fiveHour => "5-Hour"
  | .weekly => "Weekly"
  | .other s => s

/-- The empty kind, as in a window never observed. -/
def none : WindowKind := .other ""

end WindowKind

/-- The state of one quota window. -/
structure Window where
  resetsAt : Instant := Instant.zero
  kind : WindowKind := .none
  usedPercent : Float := 0
  windowMinutes : Int := 0
  isStale : Bool := false
  assumedReset : Bool := false
  deriving Inhabited, DecidableEq

namespace Window

/-- Whether two windows hold the same values (reset times as the same moment). -/
def same (w o : Window) : Bool :=
  w.kind == o.kind && w.usedPercent == o.usedPercent && w.windowMinutes == o.windowMinutes &&
    w.resetsAt.same o.resetsAt && w.isStale == o.isStale && w.assumedReset == o.assumedReset

/-- The length of the window: its minutes times one minute, wrapping in 64 bits, or zero when
it has no positive length. -/
def length (w : Window) : Duration :=
  if w.windowMinutes ≤ 0 then Duration.zero
  else Duration.scale (Int64.ofInt w.windowMinutes) Duration.minute

end Window

/-- Both windows of an account at one capture time. -/
structure Snapshot where
  capturedAt : Instant := Instant.zero
  source : String := ""
  fiveHour : Window := {}
  weekly : Window := {}
  deriving Inhabited, DecidableEq

namespace Snapshot

/-- The source of snapshots read from session logs. -/
def sessionLog : String := "sessionLog"

/-- The window of a kind; every kind but the 5-hour one reads the weekly window. -/
def window (s : Snapshot) (k : WindowKind) : Window :=
  if k = .fiveHour then s.fiveHour else s.weekly

/-- Whether two snapshots hold the same values. -/
def same (s o : Snapshot) : Bool :=
  s.capturedAt.same o.capturedAt && s.source == o.source && s.fiveHour.same o.fiveHour &&
    s.weekly.same o.weekly

end Snapshot

/-- One rate-limit reading of a usage event. -/
structure RateLimit where
  resetsAt : Instant := Instant.zero
  usedPercent : Float := 0
  windowMinutes : Int := 0
  deriving Inhabited

/-- A usage reading from a session log: the 5-hour (`primary`) and weekly (`secondary`)
windows, either of which may be missing. -/
structure UsageEvent where
  timestamp : Instant := Instant.zero
  primary : Option RateLimit := none
  secondary : Option RateLimit := none
  deriving Inhabited

end QuotaWatch
