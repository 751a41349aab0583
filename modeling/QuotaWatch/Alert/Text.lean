import QuotaWatch.Alert.Ratchet
import QuotaWatch.Advice.Recommend
import QuotaWatch.Time.Text
/-!
**The texts of notifications.**

Alerts are titled by window and severity; their body gives the whole percent remaining
(truncated) and, on a critical alert, the account to switch to when another one is recommended.
Reminders announce a weekly reset with its date, and hellos the time a keep-alive was sent;
both read the clock in the local zone, which is UTC here.
-/

namespace QuotaWatch

/-- The severity word of a level in a title. -/
def Level.severity (l : Level) : String :=
  if l = .critical then "Critical" else if l = .warning then "Warning" else "Notice"

/-- The title of an alert, e.g. `Codex HUD: Weekly Critical`. -/
def AlertEvent.title (e : AlertEvent) : String :=
  "Codex HUD: " ++ e.window.label ++ " " ++ e.level.severity

/-- The whole part of a percentage. -/
def Percent.whole (p : Percent) : Nat := p.value.toUInt64.toNat

/-- The body of an alert, suggesting the recommended account on a critical alert when it is a
different account. -/
def AlertEvent.body (e : AlertEvent) (rec : Decision) : String :=
  let base := e.label ++ " (" ++ e.email ++ ") has " ++ toString e.remaining.whole ++ "% remaining."
  match rec.recommended with
  | some next =>
    if e.level ≠ .critical ∨ next.email = e.email then base
    else base ++ " Switch to " ++ next.label ++ " (" ++ next.email ++ ")."
  | none => base

/-- A weekly reset waiting for a first message. -/
structure ReminderEvent where
  resetsAt : Instant
  email : String
  label : String
  ordinal : Int

/-- The local zone's offset. -/
def localOffset : Int := 0

/-- The body of a reminder, with the reset date as `Jan 2, 2006 3:04 PM`. -/
def ReminderEvent.body (e : ReminderEvent) : String :=
  let when := (e.resetsAt.inZone localOffset).stamp
    [.monthAbbr, .lit " ", .dayPlain, .lit ", ", .year, .lit " ", .hour12, .lit ":", .minute,
     .lit " ", .meridiem]
  e.label ++ " (" ++ e.email ++ ") reset at " ++ when ++
    ". Log in and send a message to start the weekly window."

/-- The body of a hello confirmation, with the time as `3:04 PM`. -/
def helloBody (a : Account) (at_ : Instant) : String :=
  let when := (at_.inZone localOffset).stamp [.hour12, .lit ":", .minute, .lit " ", .meridiem]
  "Hello sent at " ++ when ++ " for " ++ a.label ++ " (" ++ a.email ++ ")."

end QuotaWatch
