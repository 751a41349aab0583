import QuotaWatch.Quota.Account
import QuotaWatch.Time.Text
/-!
**The history database: snapshots and automation runs.**

Snapshots are unique by email and capture time to the millisecond (a second insert is ignored);
runs are appended. Row numbers rise and are never reused, not even those of ignored inserts.
Times are stored as UTC text that compares as text and read back truncated to milliseconds; a
row that comes without a time is stamped with the database's own clock. The schema is built by
numbered migrations, the missing ones run on reopening; queries on a dropped table fail.
-/

namespace QuotaWatch

/-- Why a history operation failed. -/
inductive HistoryError where
  /-- The table is gone. -/
  | noTable (name : String)
  /-- A value that a column refuses, such as a missing number. -/
  | constraint
  deriving Inhabited

/-- The database engine's description of a failure. -/
def HistoryError.message : HistoryError → String
  | .noTable name => "SQL logic error: no such table: " ++ name ++ " (1)"
  | .constraint => "constraint failed"

/-- The time text of the history: `2006-01-02 15:04:05.000` in UTC. -/
def historyStamp : List StampPart :=
  [.year, .lit "-", .month, .lit "-", .day, .lit " ", .hour, .lit ":", .minute, .lit ":", .second,
    .millis]

/-- An instant as history text. -/
def historyTime (t : Instant) : String := t.utc.stamp historyStamp

/-- History text as an instant; empty or unreadable text is the zero time. -/
def parseHistoryTime (s : String) : Instant :=
  if s = "" then Instant.zero else (Instant.parseStamp? historyStamp s).getD Instant.zero

/-- A stored snapshot. -/
structure SnapshotRow where
  id : Nat
  email : String
  capturedAt : String
  source : String
  fiveHourUsed : Float
  weeklyUsed : Float
  fiveHourResetsAt : Option String
  weeklyResetsAt : Option String
  assumedReset : Bool
  deriving Inhabited

/-- A stored automation run. -/
structure RunRow where
  id : Nat
  email : String
  kind : String
  outcome : String
  detail : Option String
  timestamp : String
  deriving Inhabited

/-- A table with the highest row number it ever gave. -/
structure HistoryTable (α : Type) where
  rows : List α := []
  lastId : Nat := 0
  deriving Inhabited

/-- The history database. -/
structure HistoryDb where
  version : Int := 0
  snapshots : Option (HistoryTable SnapshotRow) := none
  runs : Option (HistoryTable RunRow) := none
  deriving Inhabited

namespace HistoryDb

/-- Runs the migrations from the recorded version on: the first creates the snapshot table,
the second the run table, each only if missing. -/
def migrate (db : HistoryDb) : HistoryDb :=
  let db := if db.version ≤ 0 then
      { db with snapshots := some (db.snapshots.getD {}), version := 1 }
    else db
  if db.version ≤ 1 then { db with runs := some (db.runs.getD {}), version := 2 } else db

/-- A new database with its schema. -/
def fresh : HistoryDb := migrate {}

/-- A stored real: a negative zero reads back as zero; NaN is stored as no value, which a
number column refuses. -/
def storedReal (x : Float) : Option Float :=
  match Decimal.classify x with
  | .nan => none
  | .finite b => if b.mant = 0 then some 0 else some x
  | .inf _ => some x

/-- Stores a snapshot unless one with the same email and capture text exists, or a number is
NaN; a snapshot captured at no time is stamped with the database's clock `stamp`. Returns its row
number, or zero when ignored; an ignored insert still uses up a number. -/
def insertSnapshot (db : HistoryDb) (r : SnapshotRecord) (stamp : Instant) :
    Except HistoryError (Nat × HistoryDb) := do
  let some tbl := db.snapshots | throw (.noTable "quota_snapshots")
  let captured := historyTime (if r.capturedAt.isZero then stamp else r.capturedAt)
  let id := tbl.lastId + 1
  let optTime := fun (t : Instant) => if t.isZero then none else some (historyTime t)
  let ignored := (0, { db with snapshots := some { tbl with lastId := id } })
  match storedReal r.fiveHourUsed, storedReal r.weeklyUsed with
  | some five, some weekly =>
    if tbl.rows.any (fun x => x.email == r.email && x.capturedAt == captured) then return ignored
    let row : SnapshotRow := ⟨id, r.email, captured, r.source, five, weekly,
      optTime r.fiveHourResetsAt, optTime r.weeklyResetsAt, r.assumedReset⟩
    return (id, { db with snapshots := some ⟨tbl.rows ++ [row], id⟩ })
  | _, _ => return ignored

/-- Rows in descending order of a text key; equal keys keep their order. -/
def descendingBy {α : Type} (key : α → String) (xs : List α) : List α :=
  xs.mergeSort fun a b => key b ≤ key a

/-- The first `limit` rows, all of them for a negative limit. -/
def limitRows {α : Type} (limit : Int) (xs : List α) : List α :=
  if limit < 0 then xs else xs.take limit.toNat

/-- A stored snapshot as a record. -/
def SnapshotRow.record (x : SnapshotRow) : SnapshotRecord :=
  { id := x.id, email := x.email, capturedAt := parseHistoryTime x.capturedAt,
    source := x.source, fiveHourUsed := x.fiveHourUsed, weeklyUsed := x.weeklyUsed,
    fiveHourResetsAt := parseHistoryTime (x.fiveHourResetsAt.getD ""),
    weeklyResetsAt := parseHistoryTime (x.weeklyResetsAt.getD ""),
    assumedReset := x.assumedReset }

/-- The newest snapshots of an email, at most `limit` (all for a negative limit). -/
def recentSnapshots (db : HistoryDb) (email : String) (limit : Int) :
    Except HistoryError (List SnapshotRecord) := do
  let some tbl := db.snapshots | throw (.noTable "quota_snapshots")
  let mine := tbl.rows.filter (·.email == email)
  return (limitRows limit (descendingBy (·.capturedAt) mine)).map SnapshotRow.record

/-- Records an automation run; a run at no time is stamped with the database's clock `stamp`. -/
def recordRun (db : HistoryDb) (run : AutomationRun) (stamp : Instant) :
    Except HistoryError (Nat × HistoryDb) := do
  let some tbl := db.runs | throw (.noTable "automation_runs")
  let id := tbl.lastId + 1
  let row : RunRow := ⟨id, run.email, run.kind, run.outcome,
    if run.detail = "" then none else some run.detail,
    historyTime (if run.timestamp.isZero then stamp else run.timestamp)⟩
  return (id, { db with runs := some ⟨tbl.rows ++ [row], id⟩ })

/-- A stored run as a run. -/
def RunRow.run (x : RunRow) : AutomationRun :=
  { id := x.id, timestamp := parseHistoryTime x.timestamp, email := x.email, kind := x.kind,
    outcome := x.outcome, detail := x.detail.getD "" }

/-- The newest runs, by time and then by number, at most `limit`. -/
def recentRuns (db : HistoryDb) (limit : Int) : Except HistoryError (List AutomationRun) := do
  let some tbl := db.runs | throw (.noTable "automation_runs")
  let sorted := tbl.rows.mergeSort fun a b =>
    b.timestamp < a.timestamp || (b.timestamp == a.timestamp && b.id ≤ a.id)
  return (limitRows limit sorted).map RunRow.run

/-- Deletes the snapshots and then the runs before a cutoff, and tells how many rows went. A
missing table stops the deletion there, keeping what was already deleted. -/
def prune (db : HistoryDb) (cutoff : Instant) : HistoryDb × Except HistoryError Nat :=
  let bound := historyTime cutoff
  match db.snapshots with
  | none => (db, .error (.noTable "quota_snapshots"))
  | some snaps =>
    let keptSnaps := snaps.rows.filter fun x => !(x.capturedAt < bound)
    let db := { db with snapshots := some { snaps with rows := keptSnaps } }
    match db.runs with
    | none => (db, .error (.noTable "automation_runs"))
    | some runs =>
      let keptRuns := runs.rows.filter fun x => !(x.timestamp < bound)
      ({ db with runs := some { runs with rows := keptRuns } },
        .ok (snaps.rows.length - keptSnaps.length + (runs.rows.length - keptRuns.length)))

/-- Drops a table; `none` when there is no such table. -/
def dropTable (db : HistoryDb) (name : String) : Option HistoryDb :=
  if name = "quota_snapshots" then db.snapshots.map fun _ => { db with snapshots := none }
  else if name = "automation_runs" then db.runs.map fun _ => { db with runs := none }
  else none

/-- Sets the schema version, as a 32-bit signed number. -/
def setVersion (db : HistoryDb) (v : Int) : HistoryDb :=
  let w := v % Int.pow 2 32
  { db with version := if w ≥ Int.pow 2 31 then w - Int.pow 2 32 else w }

end HistoryDb

end QuotaWatch
