import QuotaWatch.Service.Manager
/-!
**What every part of the dashboard reads: the board.**

The board holds the latest result, stored snapshots per account, the account whose history is
shown, the notices and whether a user refresh runs; before a first result the dashboard loads.
The selection starts at the active account and cycles through the accounts. Notices are numbered
in order and outlive a positive lifetime once strictly more time has passed. The board's clock
moves forward with every reading.
-/

namespace QuotaWatch.Hud

/-- The kind of a notice, by its code: 0 to 3 are success, error, warning and information. -/
structure NoticeKind where
  code : Int
  deriving Inhabited, DecidableEq, Repr

namespace NoticeKind

/-- Something went well. -/
def success : NoticeKind := ⟨0⟩
/-- Something failed. -/
def error : NoticeKind := ⟨1⟩
/-- Something needs attention. -/
def warning : NoticeKind := ⟨2⟩
/-- Something to know. -/
def info : NoticeKind := ⟨3⟩

/-- The name of a kind; codes out of range are `unknown`. -/
def name (k : NoticeKind) : String :=
  match k.code with
  | 0 => "success"
  | 1 => "error"
  | 2 => "warning"
  | 3 => "info"
  | _ => "unknown"

end NoticeKind

/-- A message shown for a while. -/
structure Notice where
  id : String
  kind : NoticeKind
  message : String
  createdAt : Instant
  lifetime : Duration
  deriving Inhabited

/-- Whether a notice has outlived its lifetime at `now`. -/
def Notice.expired (n : Notice) (now : Instant) : Bool :=
  n.lifetime.toInt > 0 && (now.sub n.createdAt).toInt > n.lifetime.toInt

/-- The state shared by the dashboard's parts. -/
structure Board where
  latest : Option RefreshResult := none
  history : Table (List SnapshotRecord) := {}
  /-- The board's clock: the instant its next reading gives. -/
  clock : Instant
  selected : String := ""
  notices : List Notice := []
  added : Nat := 0
  refreshing : Bool := false
  deriving Inhabited

/-- How far the clock moves with each reading. -/
def clockStep : Duration := Duration.microsecond

/-- The index `delta` places on from `i` among `n`. Index and step add as 64-bit integers, so
the sum wraps; a remainder toward zero, shifted by `n` and taken again, brings it into `[0, n)`. -/
def cycleIndex (n i : Nat) (delta : Int64) : Nat :=
  (((Int64.ofNat i + delta).toInt.tmod n + n).tmod n).toNat

namespace Board

/-- An empty board whose clock starts at `clock`. -/
def start (clock : Instant) : Board := { clock }

/-- Reads the clock, which moves on. -/
def readClock (b : Board) : Instant × Board := (b.clock, { b with clock := b.clock.add clockStep })

/-- Lets time pass. -/
def wait (b : Board) (d : Duration) : Board := { b with clock := b.clock.add d }

/-- Whether no result has arrived yet. -/
def loading (b : Board) : Bool := b.latest.isNone

/-- Stores a result; the first active account becomes the selection. -/
def setResult (b : Board) (r : RefreshResult) : Board :=
  { b with latest := some r, selected := if b.selected = "" then r.activeEmail else b.selected }

/-- The configured accounts of the latest result. -/
def accounts (b : Board) : List Account :=
  match b.latest.bind (·.state) with
  | some st => st.accounts
  | none => []

/-- Moves the selection `delta` accounts on, in a circle; an unknown selection goes to the first
account. Returns the new selection. -/
def selectNext (b : Board) (delta : Int64) : Board × String :=
  match b.accounts with
  | [] => (b, b.selected)
  | accs =>
    let i := match accs.findIdx? (·.email == b.selected) with
      | some i => cycleIndex accs.length i delta
      | none => 0
    let sel := (accs.getD i default).email
    ({ b with selected := sel }, sel)

/-- Replaces the stored snapshots of an account. -/
def setHistory (b : Board) (email : String) (rs : List SnapshotRecord) : Board :=
  { b with history := b.history.set email rs }

/-- The stored snapshots of an account, newest first. -/
def historyOf (b : Board) (email : String) : List SnapshotRecord := (b.history.get? email).getD []

/-- Adds a notice, returning its number. -/
def addNotice (b : Board) (kind : NoticeKind) (message : String) (lifetime : Duration) :
    Board × String :=
  let (now, b) := b.readClock
  let id := "n" ++ toString (b.added + 1)
  ({ b with added := b.added + 1, notices := b.notices ++ [⟨id, kind, message, now, lifetime⟩] }, id)

/-- Removes the notice with a number. -/
def removeNotice (b : Board) (id : String) : Board :=
  { b with notices := b.notices.filter (·.id != id) }

/-- Removes the notices that have outlived their lifetime. -/
def clearExpired (b : Board) : Board :=
  let (now, b) := b.readClock
  { b with notices := b.notices.filter (!·.expired now) }

end Board

end QuotaWatch.Hud
