import QuotaWatch.Inspect.Model
import QuotaWatch.Json.Member
import QuotaWatch.Files.Change
/-!
**Reading the inspection form back.**

The values that requests hand to the model are written in the same form as `Inspect.Model`
writes them, with members that may be left out: a missing member takes the field's default,
and a member of the wrong kind is refused with a message naming it. A percentage outside
0 to 100 is refused with the reason the percentage itself gives.
-/

namespace QuotaWatch

open Json

/-- A rate limit reading. -/
def RateLimit.ofJson (j : Json) : Except String RateLimit := do
  return ⟨← j.instantAt "resetsAt", ← j.floatAt "usedPercent" 0, ← j.intAt "windowMinutes" 0⟩

/-- An optional rate limit reading under `k`. -/
def RateLimit.at? (j : Json) (k : String) : Except String (Option RateLimit) :=
  (j.member? k).mapM RateLimit.ofJson

/-- A usage event. -/
def UsageEvent.ofJson (j : Json) : Except String UsageEvent := do
  return ⟨← j.instantAt "timestamp", ← RateLimit.at? j "primary", ← RateLimit.at? j "secondary"⟩

/-- An optional usage event under `k`. -/
def UsageEvent.at? (j : Json) (k : String) : Except String (Option UsageEvent) :=
  (j.member? k).mapM UsageEvent.ofJson

/-- The forced refresh bookkeeping of an account. -/
def ForcedRefreshRecord.ofJson (j : Json) : Except String ForcedRefreshRecord := do
  return ⟨← j.instantAt? "lastAttempt", ← j.instantAt? "lastFailure", ← j.instantAt? "lastSuccess"⟩

/-- The daily hello bookkeeping of an account. -/
def DailyHelloRecord.ofJson (j : Json) : Except String DailyHelloRecord := do
  return ⟨← j.instantAt? "dayAnchor", ← j.instantAt? "lastRun", ← j.intAt "runCount" 0⟩

/-- The weekly reminder bookkeeping of an account. -/
def ReminderRecord.ofJson (j : Json) : Except String ReminderRecord := do
  return ⟨← j.instantAt? "lastNotified"⟩

/-- An account's configuration. -/
def AccountConfig.ofJson (j : Json) : Except String AccountConfig := do
  return ⟨← j.strAt "email" "", ← j.strAt "displayName" "", ← j.intAt "codexNumber" 0⟩

/-- The account configurations listed under `k`. -/
def AccountConfig.listAt (j : Json) (k : String) : Except String (List AccountConfig) :=
  (j.itemsAt k).mapM AccountConfig.ofJson

/-- A row of the snapshot history, before it has a row number. -/
def SnapshotRecord.ofJson (j : Json) : Except String SnapshotRecord := do
  return ⟨0, ← j.strAt "email" "", ← j.instantAt "capturedAt", ← j.strAt "source" "",
    ← j.floatAt "fiveHourUsed" 0, ← j.floatAt "weeklyUsed" 0, ← j.instantAt "fiveHourResetsAt",
    ← j.instantAt "weeklyResetsAt", ← j.boolAt "assumedReset"⟩

/-- The snapshot rows listed under `k`. -/
def SnapshotRecord.listAt (j : Json) (k : String) : Except String (List SnapshotRecord) :=
  (j.itemsAt k).mapM SnapshotRecord.ofJson

/-- A row of the automation history, before it has a row number; its time is `at`. -/
def AutomationRun.ofJson (j : Json) : Except String AutomationRun := do
  return ⟨0, ← j.instantAt "at", ← j.strAt "email" "", ← j.strAt "kind" "", ← j.strAt "outcome" "",
    ← j.strAt "detail" ""⟩

/-- A percentage, refused outside 0 to 100. -/
def Percent.read (x : Float) : Except String Percent :=
  (Percent.make x).mapError fun e => "invalid percent input: " ++ e.message

/-- The thresholds under `thresholds`, 5% and 15% when absent, each cut 5 or 15 when left out. -/
def Thresholds.ofJson (j : Json) : Except String Thresholds := do
  match j.member? "thresholds" with
  | none => return .standard
  | some t => return ⟨← Percent.read (← t.floatAt "critical" 5), ← Percent.read (← t.floatAt "warning" 15)⟩

/-- A file operation in its JSON form, its paths relative to `base`: `op` is `write` or
`append` (with `path` and `data`), `mkdir` or `remove` (with `path`), or `rename` (from `path`
to `to`); another `op` is no file operation. -/
def FsOp.ofJson (base : Path) (st : Json) : Except String (Option FsOp) := do
  let p := base.join (← st.strAt "path" "")
  match ← st.strAt "op" "" with
  | "write" => return some (.write p (← st.bytesAt "data"))
  | "append" => return some (.append p (← st.bytesAt "data"))
  | "mkdir" => return some (.mkdir p)
  | "remove" => return some (.remove p)
  | "rename" => return some (.rename p (base.join (← st.strAt "to" "")))
  | _ => return none

/-- Settings in their inspection form; durations in nanoseconds, thresholds 5% and 15% and
texts empty when left out. -/
def Settings.ofJson (j : Json) : Except String Settings := do
  let txt := fun (k : String) => j.strAt k ""
  return ⟨← txt "codexHome", ← txt "sessionsDir", ← txt "authPath", ← txt "statePath",
    ← txt "databasePath", ← txt "watchMode", ← txt "helloModel", ← txt "codexBin", ← txt "logLevel",
    ← txt "logFormat", ← j.durationAt "refreshInterval" Duration.zero,
    ← j.durationAt "watchDebounce" Duration.zero, ← j.intAt "tailBytes" 0,
    ← Percent.read (← j.floatAt "critical" 5), ← Percent.read (← j.floatAt "warning" 15),
    ← j.boolAt "notifications"⟩

end QuotaWatch
