import QuotaWatch.Time.Zone
/-!
**Gates: ordered checks over a persisted record.**

A background action is governed by a gate: a list of checks, each of which may block with a
reason, and the record to store when none blocks. The first blocking check wins, and a blocked
decision keeps the record as it was. A *cooldown* blocks while less than an interval has passed
since a recorded time; no recorded time never blocks.

Clock hours are read in the location of the clock: "today at 9:00" is the reading's calendar
date at that hour, as the location names it.
-/

namespace QuotaWatch

/-- Why a gate blocks. -/
inductive BlockReason where
  | noAuth
  | weeklyDepleted
  | tooSoon
  | recentFailure
  | outsideWindow
  | dailyLimitReached
  | fiveHourStarted
  | weeklyUsed
  | notReset
  deriving DecidableEq, Repr, Inhabited

/-- The stored name of a reason. -/
def BlockReason.name : BlockReason → String
  | .noAuth => "noAuth"
  | .weeklyDepleted => "weeklyDepleted"
  | .tooSoon => "tooSoon"
  | .recentFailure => "recentFailure"
  | .outsideWindow => "outsideWindow"
  | .dailyLimitReached => "dailyLimitReached"
  | .fiveHourStarted => "fiveHourStarted"
  | .weeklyUsed => "weeklyUsed"
  | .notReset => "notReset"

/-- A gate's decision: the record to keep (updated when allowed), and the reason when blocked. -/
structure GateDecision (R : Type) where
  record : R
  reason : Option BlockReason

/-- Whether a decision allows the action. -/
def GateDecision.allowed {R : Type} (d : GateDecision R) : Bool := d.reason.isNone

/-- Runs the checks in order: the first blocking reason wins and keeps `record`; with none,
the action is allowed and `next` is the record to store. -/
def decideGate {R : Type} (checks : List (Option BlockReason)) (record next : R) : GateDecision R :=
  match checks.findSome? id with
  | some r => ⟨record, some r⟩
  | none => ⟨next, none⟩

/-- Whether less than `interval` has passed since `last`, if there is a `last`. -/
def cooldownBlocks (now : Instant) (last : Option Instant) (interval : Duration) : Bool :=
  match last with
  | some t => decide ((now.sub t) < interval)
  | none => false

/-- The given hour on the calendar date of `now`, as the location `loc` names it; hours out of
range carry. -/
def atHour (loc : Location) (now : Instant) (hour : Int) : Instant :=
  let c := now.civil
  loc.date c.year c.month c.day hour 0 0 0

/-- Midnight starting the calendar date of `now`, in the location `loc`. -/
def startOfDay (loc : Location) (now : Instant) : Instant := atHour loc now 0

end QuotaWatch
