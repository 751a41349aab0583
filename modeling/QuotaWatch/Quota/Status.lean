import QuotaWatch.Quota.Account
/-!
**The status of an account.**

An account is *available* or *depleted* by its weekly window: depleted when the weekly
remaining is at or below the depletion cut. An account without a snapshot, or whose weekly
usage is not a percentage, has *unknown* status.
-/

namespace QuotaWatch

/-- The three statuses. -/
inductive StatusKind where
  | unknown
  | available
  | depleted
  deriving DecidableEq, Repr, Inhabited

/-- The name of a status. -/
def StatusKind.name : StatusKind → String
  | .unknown => "unknown"
  | .available => "available"
  | .depleted => "depleted"

/-- The weekly window of an account with a known status. -/
structure WeeklyState where
  resetsAt : Instant
  remaining : Percent
  used : Percent

/-- An account's status, with its weekly reading when known. -/
structure Status where
  kind : StatusKind
  weekly : Option WeeklyState := none

/-- The remaining percentage of one window of an account's last snapshot. -/
def Account.remaining (a : Account) (k : WindowKind) : Option Percent :=
  match a.lastSnapshot with
  | none => none
  | some s => Percent.remainingFromUsed (s.window k).usedPercent

/-- The status of an account by its weekly window. -/
def Thresholds.status (t : Thresholds) (a : Account) : Status :=
  match a.lastSnapshot with
  | none => ⟨.unknown, none⟩
  | some s =>
    match Percent.make? s.weekly.usedPercent, Percent.remainingFromUsed s.weekly.usedPercent with
    | some used, some rem =>
      let ws : WeeklyState := ⟨s.weekly.resetsAt, rem, used⟩
      if rem.atMost t.depleted then ⟨.depleted, some ws⟩ else ⟨.available, some ws⟩
    | _, _ => ⟨.unknown, none⟩

end QuotaWatch
