import QuotaWatch.Gate.Basic
import QuotaWatch.Quota.Account
/-!
**The daily-hello gate.**

A daily hello is a keep-alive message that starts the 5-hour window early in the day. It is
sent only during the day's window of hours (end hour excluded), at most a number of times per
calendar day, with a minimum interval between two, and not when today's 5-hour window already
runs. The record counts the runs of the day that starts at its anchor; an allowed run starts the
count afresh on a new day.
-/

namespace QuotaWatch

/-- The bounds on daily hellos. -/
structure DailyHelloPolicy where
  startHour : Int := 9
  endHour : Int := 21
  maxRunsPerDay : Int := 3
  minimumInterval : Duration := Duration.scale 5 Duration.hour
  deriving Inhabited

/-- Whether a record's anchor is the start of the calendar day of `now` in the location `loc`. -/
def sameDay (loc : Location) (anchor : Option Instant) (now : Instant) : Bool :=
  match anchor with
  | some a => a.same (startOfDay loc now)
  | none => false

/-- The record after an allowed run at `now`, in the location `loc`. -/
def DailyHelloRecord.afterRun (r : DailyHelloRecord) (loc : Location) (now : Instant) :
    DailyHelloRecord :=
  let count := if sameDay loc r.dayAnchor now then r.runCount else 0
  { dayAnchor := some (startOfDay loc now), lastRun := some now, runCount := count + 1 }

/-- Whether a daily hello may be sent now, the clock being that of the location `loc`. -/
def DailyHelloPolicy.decide (p : DailyHelloPolicy) (loc : Location) (now : Instant)
    (r : DailyHelloRecord) (fiveHourStarted : Bool) : GateDecision DailyHelloRecord :=
  let h : Int := now.civil.hour
  decideGate
    [ if h < p.startHour ∨ h ≥ p.endHour then some .outsideWindow else none,
      if sameDay loc r.dayAnchor now ∧ r.runCount ≥ p.maxRunsPerDay then some .dailyLimitReached
        else none,
      if cooldownBlocks now r.lastRun p.minimumInterval then some .tooSoon else none,
      if fiveHourStarted then some .fiveHourStarted else none ]
    r (r.afterRun loc now)

/-- Whether an account's 5-hour window already shows usage in a snapshot captured today, in the
location `loc`, at or after the start hour. -/
def fiveHourStarted (a : Option Account) (loc : Location) (now : Instant) (startHour : Int) : Bool :=
  match a.bind (·.lastSnapshot) with
  | none => false
  | some s => !(s.capturedAt.before (atHour loc now startHour)) && s.fiveHour.usedPercent > 0

end QuotaWatch
