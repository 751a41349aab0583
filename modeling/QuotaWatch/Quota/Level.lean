import QuotaWatch.Quota.Percent
/-!
**Alert levels and the thresholds that cut them.**

A remaining percentage is *critical* at or below the critical threshold, a *warning* at or
below the warning threshold, and *normal* above both. Levels are ordered `normal < warning <
critical`; they are stored as their codes `0, 1, 2`, and a stored code outside these reads as
`unknown`. The critical threshold is also the depletion cut: an account whose weekly remaining
is at or below it is depleted.
-/

namespace QuotaWatch

/-- An alert level, by its stored code: `0` normal, `1` warning, `2` critical. -/
structure Level where
  code : Int
  deriving DecidableEq, Inhabited, Repr

namespace Level

def normal : Level := ⟨0⟩
def warning : Level := ⟨1⟩
def critical : Level := ⟨2⟩

/-- The name of a level; codes without a level read `unknown`. -/
def name (l : Level) : String :=
  if l.code = 0 then "normal"
  else if l.code = 1 then "warning"
  else if l.code = 2 then "critical"
  else "unknown"

instance : LT Level := ⟨fun a b => a.code < b.code⟩
instance (a b : Level) : Decidable (a < b) := inferInstanceAs (Decidable (a.code < b.code))

end Level

/-- The two cut points of remaining percentages. -/
structure Thresholds where
  critical : Percent
  warning : Percent
  deriving Inhabited

namespace Thresholds

/-- Critical at 5% and warning at 15%. -/
def standard : Thresholds := ⟨⟨5⟩, ⟨15⟩⟩

/-- The depletion cut. -/
def depleted (t : Thresholds) : Percent := t.critical

/-- The level of a remaining percentage. -/
def level (t : Thresholds) (remaining : Percent) : Level :=
  if remaining.atMost t.critical then .critical
  else if remaining.atMost t.warning then .warning
  else .normal

end Thresholds

end QuotaWatch
