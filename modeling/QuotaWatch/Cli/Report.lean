import QuotaWatch.Service.Manager
import QuotaWatch.Text.Columns
import QuotaWatch.View.Bars
/-!
**What the command line prints.**

The status report shows who is signed in, the recommendation, the warnings and a table of
accounts with their remaining weekly and 5-hour percentages and times to reset (`now` once
passed, `*` when assumed), marking the active and next account; the status also has a JSON form
that keeps its field order and leaves out empty optional fields. The account list and the
history (a chart, its legend, the snapshots newest first, and the automation runs) follow.
Tables are aligned two spaces apart; history times are written in UTC.
-/

namespace QuotaWatch.Report

open Json

/-- One window of an account in the status. -/
structure WindowReport where
  resetsAt : Instant
  remaining : Float
  assumedReset : Bool
  deriving Inhabited

/-- One account in the status. -/
structure AccountReport where
  fiveHour : Option WindowReport
  weekly : Option WindowReport
  lastUpdated : Option Instant
  email : String
  label : String
  status : String
  ordinal : Int
  active : Bool
  recommended : Bool
  deriving Inhabited

/-- The status of every account after a refresh. -/
structure StatusReport where
  at_ : Instant
  activeEmail : String
  /-- The recommended email, empty when none is. -/
  recommendedEmail : String
  reason : String
  summary : String
  accounts : List AccountReport
  warnings : List String
  signedIn : Bool
  deriving Inhabited

/-- The report of a window of an account, when its remaining percentage is known. -/
def windowOf (a : Account) (k : WindowKind) : Option WindowReport :=
  match a.remaining k, a.lastSnapshot with
  | some r, some s =>
    let w := s.window k
    some ⟨w.resetsAt, r.value, w.assumedReset⟩
  | _, _ => none

/-- The status report of a refresh's result. -/
def StatusReport.ofResult (t : Thresholds) (r : RefreshResult) : StatusReport :=
  let rec_ := r.recommendation
  let recEmail := (rec_.recommended.map (·.email)).getD ""
  let accounts := ((r.state.map (·.accounts)).getD []).map fun a =>
    { fiveHour := windowOf a .fiveHour, weekly := windowOf a .weekly, lastUpdated := a.lastUpdated,
      email := a.email, label := a.label, status := (t.status a).kind.name, ordinal := a.ordinal,
      active := a.email = r.activeEmail, recommended := a.email = recEmail : AccountReport }
  { at_ := r.at_, activeEmail := r.activeEmail, recommendedEmail := recEmail,
    reason := rec_.reason.name, summary := rec_.summary, accounts, warnings := r.warnings,
    signedIn := r.hasAuth }

/-! ### Text -/

/-- A percentage with no decimals. -/
def percentText (x : Float) : String := Decimal.fixedText x 0 ++ "%"

/-- The remaining and reset cells of a window at time `now`. -/
def windowCells (w : Option WindowReport) (now : Instant) : String × String :=
  match w with
  | none => ("--", "--")
  | some w =>
    let left := w.resetsAt.sub now
    let reset := if left.toInt > 0 then "in " ++ formatUntil left else "now"
    (percentText w.remaining, if w.assumedReset then reset ++ "*" else reset)

/-- The status cell of an account. -/
def statusCell (a : AccountReport) : String :=
  ", ".intercalate ([a.status] ++ (if a.active then ["active"] else []) ++
    (if a.recommended && !a.active then ["next"] else []))

/-- Lines of tab-separated cells, aligned into columns. -/
def table (rows : List (List String)) : String :=
  Columns.align 2 (String.join (rows.map fun r => "\t".intercalate r ++ "\n"))

/-- The status as text, with reset times counted from `now`. -/
def StatusReport.text (r : StatusReport) (now : Instant) : String :=
  let head :=
    (if r.signedIn && r.activeEmail ≠ "" then "Signed in as " ++ r.activeEmail ++ "\n"
     else "Not signed in\n") ++
    "➜ " ++ r.summary ++ "\n" ++
    String.join (r.warnings.map fun w => "warning: " ++ w ++ "\n") ++ "\n"
  if r.accounts.isEmpty then
    head ++ "No accounts configured. Add some with: codexhud accounts import accounts.yaml\n"
  else
    head ++ table (["ACCOUNT", "EMAIL", "WEEKLY", "RESETS", "5-HOUR", "RESETS", "STATUS"] ::
      r.accounts.map fun a =>
        let (weekly, weeklyReset) := windowCells a.weekly now
        let (five, fiveReset) := windowCells a.fiveHour now
        [a.label, a.email, weekly, weeklyReset, five, fiveReset, statusCell a])

/-! ### JSON -/

/-- A window in the JSON report. -/
def WindowReport.toJson (w : WindowReport) : Json :=
  .obj ([("resetsAt", .str w.resetsAt.rfc3339), ("remaining", Json.ofFloat w.remaining)] ++
    (if w.assumedReset then [("assumedReset", .bool true)] else []))

/-- An account in the JSON report. -/
def AccountReport.toJson (a : AccountReport) : Json :=
  .obj ((a.fiveHour.map fun w => ("fiveHour", w.toJson)).toList ++
    (a.weekly.map fun w => ("weekly", w.toJson)).toList ++
    (a.lastUpdated.map fun t => ("lastUpdated", Json.str t.rfc3339)).toList ++
    [("email", .str a.email), ("label", .str a.label), ("status", .str a.status),
     ("codexNumber", Json.ofInt a.ordinal), ("active", .bool a.active),
     ("recommended", .bool a.recommended)])

/-- The status as a JSON document. -/
def StatusReport.toJson (r : StatusReport) : Json :=
  .obj ([("at", .str r.at_.rfc3339)] ++
    (if r.activeEmail = "" then [] else [("activeEmail", .str r.activeEmail)]) ++
    [("recommendation", .obj ((if r.recommendedEmail = "" then [] else [("email", .str r.recommendedEmail)]) ++
        [("reason", .str r.reason), ("summary", .str r.summary)])),
     ("accounts", .arr (r.accounts.map AccountReport.toJson))] ++
    (if r.warnings.isEmpty then [] else [("warnings", .arr (r.warnings.map .str))]) ++
    [("signedIn", .bool r.signedIn)])

/-- A JSON document as the status prints it: indented by two spaces, with a line break. -/
def jsonText (j : Json) : String := pretty true "  " 0 j ++ "\n"

/-! ### Accounts and history -/

/-- The accounts of a state as text. -/
def accountsText (st : AppState) : String :=
  if st.accounts.isEmpty then "No accounts configured\n"
  else table (["NUMBER", "NAME", "EMAIL", "ACTIVE"] :: st.accounts.map fun a =>
    [toString a.ordinal, a.label, a.email, if a.email = st.active then "*" else ""])

/-- The time of a history row. -/
def historyStampText (t : Instant) : String :=
  t.utc.stamp [.year, .lit "-", .month, .lit "-", .day, .lit " ", .hour, .lit ":", .minute, .lit ":",
    .second]

/-- The history of an account: chart, legend and table, or a line saying there is none. -/
def snapshotsText (email : String) (rs : List SnapshotRecord) : String :=
  if rs.isEmpty then "No snapshots recorded for " ++ email ++ "\n"
  else
    let five := remainingSeries (rs.map (·.fiveHourUsed))
    let weekly := remainingSeries (rs.map (·.weeklyUsed))
    windowChart .plain five weekly 60 10 ("remaining % of " ++ email ++ ", oldest to newest") ++ "\n" ++
    windowLegend .plain ++ "\n\n" ++
    table (["CAPTURED", "SOURCE", "5-HOUR USED", "WEEKLY USED", "NOTE"] :: rs.map fun r =>
      [historyStampText r.capturedAt, r.source, percentText r.fiveHourUsed, percentText r.weeklyUsed,
       if r.assumedReset then "assumed reset" else ""])

/-- The automation runs as text. -/
def runsText (runs : List AutomationRun) : String :=
  if runs.isEmpty then "No automation runs recorded\n"
  else table (["TIME", "KIND", "EMAIL", "OUTCOME", "DETAIL"] :: runs.map fun r =>
    [historyStampText r.timestamp, r.kind, r.email, r.outcome, r.detail])

end QuotaWatch.Report
