import QuotaWatch.Gate.Basic
import QuotaWatch.Quota.Account
/-!
**The weekly-reminder gate.**

A reminder tells that an account's weekly window has reset and waits for a first message. It
is sent only while the weekly window shows no usage and has reset (observed or assumed), during
the day's window of hours (both ends included), and at most once per interval.
-/

namespace QuotaWatch

/-- The bounds on weekly reminders. -/
structure ReminderPolicy where
  startHour : Int := 9
  endHour : Int := 22
  interval : Duration := Duration.scale 5 Duration.hour
  deriving Inhabited

/-- Whether the reminder for a weekly window may be sent now, the clock being that of the
location `loc`. -/
def ReminderPolicy.decide (p : ReminderPolicy) (loc : Location) (now : Instant) (weekly : Window)
    (r : ReminderRecord) : GateDecision ReminderRecord :=
  decideGate
    [ if weekly.usedPercent != 0 then some .weeklyUsed else none,
      if !weekly.assumedReset && now.before weekly.resetsAt then some .notReset else none,
      if now.before (atHour loc now p.startHour) || now.after (atHour loc now p.endHour)
        then some .outsideWindow else none,
      if cooldownBlocks now r.lastNotified p.interval then some .tooSoon else none ]
    r { lastNotified := some now }

end QuotaWatch
