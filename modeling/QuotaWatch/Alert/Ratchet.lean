import QuotaWatch.Quota.Status
/-!
**The alert ratchet.**

An alert for a window fires when its level is not normal and rises above the level last noted
for it, or when none was noted. The level mark to store is computed every time, whether or not
an alert fires. While the weekly remaining is at or below the critical cut, the 5-hour window is
not looked at, and its level is left out of the mark; so is it when its usage is unusable. An
account without usable weekly data is not evaluated at all.
-/

namespace QuotaWatch

/-- One threshold crossing of one window of one account. -/
structure AlertEvent where
  email : String
  label : String
  window : WindowKind
  remaining : Percent
  ordinal : Int
  level : Level

/-- The ratchet's rule: a level that is not normal alerts when nothing was noted before or it
is strictly higher than what was. -/
def shouldAlert (previous : Option Level) (current : Level) : Bool :=
  if current = .normal then false
  else match previous with
    | none => true
    | some p => decide (p < current)

/-- The alert of one window of an account. -/
def AlertEvent.ofAccount (a : Account) (w : WindowKind) (l : Level) (r : Percent) : AlertEvent :=
  ⟨a.email, a.label, w, r, a.ordinal, l⟩

/-- An evaluation: the mark to store and the alerts to send. -/
structure Evaluation where
  mark : LevelMark
  events : List AlertEvent

/-- Evaluates an account against the previous mark; `none` without usable weekly data. -/
def Thresholds.evaluate (t : Thresholds) (a : Account) (previous : Option LevelMark) :
    Option Evaluation :=
  match a.remaining .weekly with
  | none => none
  | some wr =>
    let wl := t.level wr
    let weeklyEvents := if shouldAlert (previous.map (·.weekly)) wl
      then [AlertEvent.ofAccount a .weekly wl wr] else []
    if wr.atMost t.critical then some ⟨⟨none, wl⟩, weeklyEvents⟩
    else
      match a.remaining .fiveHour with
      | none => some ⟨⟨none, wl⟩, weeklyEvents⟩
      | some fr =>
        let fl := t.level fr
        let fiveEvents := if shouldAlert (previous.bind (·.fiveHour)) fl
          then [AlertEvent.ofAccount a .fiveHour fl fr] else []
        some ⟨⟨some fl, wl⟩, weeklyEvents ++ fiveEvents⟩

end QuotaWatch
