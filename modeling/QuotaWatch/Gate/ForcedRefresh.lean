import QuotaWatch.Gate.Basic
import QuotaWatch.Quota.Account
/-!
**The forced-refresh gate.**

A forced refresh sends a message from an idle account to start its weekly window. It needs
credentials, is refused while the weekly remaining is at or below the depletion cut, runs at
most once per minimum interval, and backs off for a cool-down after a failure. An allowed
attempt records its time before the message is sent; its outcome is recorded afterwards.
-/

namespace QuotaWatch

/-- How often forced refreshes may run. -/
structure ForcedRefreshPolicy where
  minimumInterval : Duration := Duration.scale 12 Duration.hour
  failureCooldown : Duration := Duration.scale 24 Duration.hour
  deriving Inhabited

/-- Whether a forced refresh may run now; an allowed record has its attempt time set to now. -/
def ForcedRefreshPolicy.decide (p : ForcedRefreshPolicy) (t : Thresholds) (now : Instant)
    (r : ForcedRefreshRecord) (hasAuth : Bool) (weeklyRemaining : Option Percent) :
    GateDecision ForcedRefreshRecord :=
  let depleted := match weeklyRemaining with
    | some w => w.atMost t.depleted
    | none => false
  decideGate
    [ if !hasAuth then some .noAuth else none,
      if depleted then some .weeklyDepleted else none,
      if cooldownBlocks now r.lastAttempt p.minimumInterval then some .tooSoon else none,
      if cooldownBlocks now r.lastFailure p.failureCooldown then some .recentFailure else none ]
    r { r with lastAttempt := some now }

/-- Records a successful attempt. -/
def ForcedRefreshRecord.markSuccess (r : ForcedRefreshRecord) (at_ : Instant) : ForcedRefreshRecord :=
  { r with lastSuccess := some at_ }

/-- Records a failed attempt. -/
def ForcedRefreshRecord.markFailure (r : ForcedRefreshRecord) (at_ : Instant) : ForcedRefreshRecord :=
  { r with lastFailure := some at_ }

end QuotaWatch
