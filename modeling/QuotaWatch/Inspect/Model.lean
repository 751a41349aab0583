import QuotaWatch.Service.Manager
import QuotaWatch.Credential.Token
import QuotaWatch.Config.Settings
/-!
**The inspection form of the model's values.**

Besides the stored form of the state (`AppState.toDoc`), every value of the model has a JSON
form meant for looking at it: all fields are written, absent values as `null`, instants as
RFC 3339 text with their offset, levels and kinds by name, and derived texts (an account's
label, a decision's summary, an alert's title and body) next to the data they come from. These
forms never fail: a double that is not finite is written as the string of its name.
-/

namespace QuotaWatch

/-- An instant as RFC 3339 text. -/
def Instant.toJson (t : Instant) : Json := .str t.rfc3339

/-- An optional value, `null` when absent. -/
def Json.opt {α : Type} (f : α → Json) : Option α → Json
  | some a => f a
  | none => .null

/-- An optional instant. -/
def Json.instant? (t : Option Instant) : Json := Json.opt Instant.toJson t

/-- A double. -/
def Json.float (x : Float) : Json := Json.ofFloat x

/-- A window with all its fields. -/
def Window.toJson (w : Window) : Json :=
  .obj [("assumedReset", .bool w.assumedReset), ("isStale", .bool w.isStale),
    ("kind", .str w.kind.name), ("resetsAt", w.resetsAt.toJson),
    ("usedPercent", .float w.usedPercent), ("windowMinutes", .ofInt w.windowMinutes)]

/-- A snapshot with both windows. -/
def Snapshot.toJson (s : Snapshot) : Json :=
  .obj [("capturedAt", s.capturedAt.toJson), ("source", .str s.source),
    ("fiveHour", s.fiveHour.toJson), ("weekly", s.weekly.toJson)]

/-- An account with its label. -/
def Account.toJson (a : Account) : Json :=
  .obj [("codexNumber", .ofInt a.ordinal), ("displayName", .str a.displayName),
    ("email", .str a.email), ("label", .str a.label),
    ("lastSnapshot", .opt Snapshot.toJson a.lastSnapshot),
    ("lastUpdated", .instant? a.lastUpdated)]

/-- The alert levels last reported for an account, by name. -/
def LevelMark.toJson (m : LevelMark) : Json :=
  .obj [("fiveHour", .opt (fun l => .str l.name) m.fiveHour), ("weekly", .str m.weekly.name)]

/-- The forced refresh bookkeeping of an account. -/
def ForcedRefreshRecord.toJson (r : ForcedRefreshRecord) : Json :=
  .obj [("lastAttempt", .instant? r.lastAttempt), ("lastFailure", .instant? r.lastFailure),
    ("lastSuccess", .instant? r.lastSuccess)]

/-- The daily hello bookkeeping of an account. -/
def DailyHelloRecord.toJson (r : DailyHelloRecord) : Json :=
  .obj [("dayAnchor", .instant? r.dayAnchor), ("lastRun", .instant? r.lastRun),
    ("runCount", .ofInt r.runCount)]

/-- The weekly reminder bookkeeping of an account. -/
def ReminderRecord.toJson (r : ReminderRecord) : Json :=
  .obj [("lastNotified", .instant? r.lastNotified)]

/-- A table by email. -/
def Table.toJson {α : Type} (f : α → Json) (t : Table α) : Json :=
  .obj (t.entries.map fun (k, v) => (k, f v))

/-- The whole state. -/
def AppState.toJson (s : AppState) : Json :=
  .obj [("accounts", .arr (s.accounts.map Account.toJson)),
    ("activeEmail", .opt Json.str s.activeEmail), ("lastRefresh", .instant? s.lastRefresh),
    ("notificationLedger", s.ledger.toJson LevelMark.toJson),
    ("forcedRefreshRecords", s.forcedRefresh.toJson ForcedRefreshRecord.toJson),
    ("dailyHelloRecords", s.dailyHello.toJson DailyHelloRecord.toJson),
    ("weeklyReminderRecords", s.reminders.toJson ReminderRecord.toJson)]

/-- A rate limit reading. -/
def RateLimit.toJson (r : RateLimit) : Json :=
  .obj [("usedPercent", .float r.usedPercent), ("windowMinutes", .ofInt r.windowMinutes),
    ("resetsAt", r.resetsAt.toJson)]

/-- A usage event. -/
def UsageEvent.toJson (e : UsageEvent) : Json :=
  .obj [("timestamp", e.timestamp.toJson), ("primary", .opt RateLimit.toJson e.primary),
    ("secondary", .opt RateLimit.toJson e.secondary)]

/-- A row of the snapshot history. -/
def SnapshotRecord.toJson (r : SnapshotRecord) : Json :=
  .obj [("id", .ofInt r.id), ("email", .str r.email), ("capturedAt", r.capturedAt.toJson),
    ("source", .str r.source), ("fiveHourUsed", .float r.fiveHourUsed),
    ("weeklyUsed", .float r.weeklyUsed), ("fiveHourResetsAt", r.fiveHourResetsAt.toJson),
    ("weeklyResetsAt", r.weeklyResetsAt.toJson), ("assumedReset", .bool r.assumedReset)]

/-- A row of the automation history. -/
def AutomationRun.toJson (r : AutomationRun) : Json :=
  .obj [("id", .ofInt r.id), ("email", .str r.email), ("kind", .str r.kind),
    ("outcome", .str r.outcome), ("detail", .str r.detail), ("timestamp", r.timestamp.toJson)]

/-- An automation run as it is handed to the history, before it has a row number. -/
def AutomationRun.entryJson (r : AutomationRun) : Json :=
  .obj [("email", .str r.email), ("kind", .str r.kind), ("outcome", .str r.outcome),
    ("detail", .str r.detail), ("at", r.timestamp.toJson)]

/-- A recommendation with its summary. -/
def Decision.toJson (d : Decision) : Json :=
  .obj [("reason", .str d.reason.name), ("activeEmail", .str d.activeEmail),
    ("recommended", .opt Account.toJson d.recommended), ("summary", .str d.summary)]

/-- An alert with its title, and its body under the recommendation `rec`. -/
def AlertEvent.toJson (rec : Decision) (e : AlertEvent) : Json :=
  .obj [("email", .str e.email), ("label", .str e.label), ("window", .str e.window.name),
    ("remaining", .float e.remaining.value), ("ordinal", .ofInt e.ordinal),
    ("level", .str e.level.name), ("title", .str e.title), ("body", .str (e.body rec))]

/-- A weekly reminder with its body. -/
def ReminderEvent.toJson (e : ReminderEvent) : Json :=
  .obj [("body", .str e.body), ("email", .str e.email), ("label", .str e.label),
    ("ordinal", .ofInt e.ordinal), ("resetsAt", e.resetsAt.toJson)]

/-- An account's configuration. -/
def AccountConfig.toJson (c : AccountConfig) : Json :=
  .obj [("email", .str c.email), ("displayName", .str c.displayName),
    ("codexNumber", .ofInt c.ordinal)]

/-- A signed-in identity. -/
def Identity.toJson (i : Identity) : Json :=
  .obj [("email", .str i.email), ("subject", .str i.subject), ("accountId", .str i.accountId)]

/-- The outcome of an automation action. -/
def ActionResult.toJson (r : ActionResult) : Json :=
  .obj [("kind", .str r.kind.name), ("email", .str r.email),
    ("reason", .str ((r.skipped.map SkipReason.name).getD "")), ("sent", .bool r.sent)]

/-- A refresh's result. -/
def RefreshResult.toJson (r : RefreshResult) : Json :=
  .obj [("at", r.at_.toJson), ("updated", .bool r.updated), ("hasAuth", .bool r.hasAuth),
    ("activeEmail", .str r.activeEmail), ("warnings", .arr (r.warnings.map Json.str)),
    ("alerts", .arr (r.alerts.map (AlertEvent.toJson r.recommendation))),
    ("reminders", .arr (r.reminders.map ReminderEvent.toJson)),
    ("forcedRefresh", .opt ActionResult.toJson r.forcedRefresh),
    ("recommendation", r.recommendation.toJson), ("state", .opt AppState.toJson r.state)]

/-- What a service was seen doing, grouped by kind, oldest first: the times its usage source
was asked from, the messages it sent, what it showed (alerts with their recommendation,
reminders, confirmed hellos) and what it wrote to the history. -/
def Observation.fields (seen : List Observation) : List (String × Json) :=
  let pick := fun (f : Observation → Option Json) => Json.arr (seen.filterMap f)
  [("sinces", pick fun | .asked t => some (.instant? t) | _ => none),
   ("sendCalls", pick fun
     | .sent m msg => some (.obj [("model", .str m), ("message", .str msg)])
     | _ => none),
   ("sink", pick fun
     | .alerted es r => some (.obj [("alerts", .arr (es.map (AlertEvent.toJson r))),
         ("recommendation", r.toJson)])
     | .reminded e => some (.obj [("reminder", e.toJson)])
     | .greeted a t => some (.obj [("hello", .obj [("email", .str a.email), ("at", t.toJson),
         ("body", .str (helloBody a t))])])
     | _ => none),
   ("history", pick fun
     | .snapshotStored r => some (.obj [("snapshot", r.toJson)])
     | .runStored r => some (.obj [("run", r.entryJson)])
     | _ => none)]

/-- The settings in use, durations in nanoseconds. -/
def Settings.toJson (s : Settings) : Json :=
  .obj [("codexHome", .str s.codexHome), ("sessionsDir", .str s.sessionsDir),
    ("authPath", .str s.authPath), ("statePath", .str s.statePath),
    ("databasePath", .str s.databasePath), ("watchMode", .str s.watchMode),
    ("helloModel", .str s.helloModel), ("codexBin", .str s.codexBin), ("logLevel", .str s.logLevel),
    ("logFormat", .str s.logFormat), ("refreshInterval", .ofInt s.refreshInterval.toInt),
    ("watchDebounce", .ofInt s.watchDebounce.toInt), ("tailBytes", .ofInt s.tailBytes),
    ("critical", .float s.critical.value), ("warning", .float s.warning.value),
    ("notifications", .bool s.notifications)]

/-- An automation gate's decision with the record it leaves behind. -/
def GateDecision.toJson {R : Type} (f : R → Json) (d : GateDecision R) : Json :=
  .obj [("allowed", .bool d.allowed), ("reason", .str ((d.reason.map (·.name)).getD "")),
    ("record", f d.record)]

/-- An account's status: its kind, and the weekly window when it is known. -/
def Status.toJson (st : Status) : Json :=
  let weekly := st.weekly.map fun w => ("weekly", Json.obj [("resetsAt", w.resetsAt.toJson),
    ("remaining", .float w.remaining.value), ("used", .float w.used.value)])
  .obj (("kind", .str st.kind.name) :: weekly.toList)

/-- A service event: the summary of a refresh, or the failure of a service. -/
def ServiceEvent.toJson : ServiceEvent → Json
  | .refreshed r => .obj [("refreshed", .obj [("at", r.at_.toJson), ("activeEmail", .str r.activeEmail),
      ("updated", .bool r.updated), ("hasAuth", .bool r.hasAuth)])]
  | .failed svc e => .obj [("errorEvent", .obj [("service", .str svc), ("error", .str e)])]

/-- The members of an object followed by `extra`; other values are left alone. -/
def Json.extend (a : Json) (extra : List (String × Json)) : Json :=
  match a with
  | .obj fs => .obj (fs ++ extra)
  | other => other

end QuotaWatch
