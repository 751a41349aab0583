import QuotaWatch.Quota.Window
import QuotaWatch.Quota.Level
/-!
**Accounts and the tracked state.**

An account is identified by its email and carries a user-chosen number, an optional display
name, and its last snapshot. The tracked state holds the accounts in order, the active email,
the time of the last refresh, and four bookkeeping tables keyed by email: the alert levels last
notified, and the records of forced refreshes, daily hellos and weekly reminders. The tables may
keep entries of accounts that were since removed.
-/

namespace QuotaWatch

/-- One configured account. -/
structure Account where
  email : String := ""
  displayName : String := ""
  ordinal : Int := 0
  lastSnapshot : Option Snapshot := none
  lastUpdated : Option Instant := none
  deriving Inhabited, DecidableEq

/-- The name shown for an account: its display name, or `Codex <number>` without one. -/
def Account.label (a : Account) : String :=
  if a.displayName = "" then "Codex " ++ toString a.ordinal else a.displayName

/-- A finite map from names to values, one entry per name, in name order. -/
structure Table (α : Type) where
  entries : List (String × α) := []
  deriving Inhabited, DecidableEq

namespace Table

variable {α : Type}

/-- The value of a name. -/
def get? (t : Table α) (k : String) : Option α := (t.entries.find? (·.1 == k)).map (·.2)

/-- Sets the value of a name, keeping name order. -/
def set (t : Table α) (k : String) (v : α) : Table α :=
  ⟨go t.entries⟩
where
  go : List (String × α) → List (String × α)
    | [] => [(k, v)]
    | (k', v') :: rest =>
      if k' = k then (k, v) :: rest
      else if k < k' then (k, v) :: (k', v') :: rest
      else (k', v') :: go rest

/-- The table of a list of entries, later entries of a name replacing earlier ones. -/
def ofList (l : List (String × α)) : Table α := l.foldl (fun t p => t.set p.1 p.2) {}

/-- Whether the table is empty. -/
def isEmpty (t : Table α) : Bool := t.entries.isEmpty

end Table

/-- The levels last notified for one account; no 5-hour level when it was not evaluated. -/
structure LevelMark where
  fiveHour : Option Level := none
  weekly : Level := .normal
  deriving Inhabited, DecidableEq

/-- The forced refreshes of one account. -/
structure ForcedRefreshRecord where
  lastAttempt : Option Instant := none
  lastFailure : Option Instant := none
  lastSuccess : Option Instant := none
  deriving Inhabited, DecidableEq

/-- The daily hellos of one account: runs on the day starting at the anchor. -/
structure DailyHelloRecord where
  dayAnchor : Option Instant := none
  lastRun : Option Instant := none
  runCount : Int := 0
  deriving Inhabited, DecidableEq

/-- The weekly reminders of one account. -/
structure ReminderRecord where
  lastNotified : Option Instant := none
  deriving Inhabited, DecidableEq

/-- The tracked state. -/
structure AppState where
  activeEmail : Option String := none
  lastRefresh : Option Instant := none
  ledger : Table LevelMark := {}
  forcedRefresh : Table ForcedRefreshRecord := {}
  dailyHello : Table DailyHelloRecord := {}
  reminders : Table ReminderRecord := {}
  accounts : List Account := []
  deriving Inhabited, DecidableEq

namespace AppState

/-- The active email, or `""` when none is set. -/
def active (s : AppState) : String := s.activeEmail.getD ""

/-- Sets the active email; the empty email clears it. -/
def setActive (s : AppState) (email : String) : AppState :=
  { s with activeEmail := if email = "" then none else some email }

/-- The first account with an email. -/
def account? (s : AppState) (email : String) : Option Account :=
  s.accounts.find? (·.email == email)

/-- Replaces the first account with the given email, the one `account?` finds, by `f` of it;
later accounts of the same email stay as they are. -/
def updateAccount (s : AppState) (email : String) (f : Account → Account) : AppState :=
  { s with accounts := go s.accounts }
where
  go : List Account → List Account
    | [] => []
    | a :: rest => if a.email = email then f a :: rest else a :: go rest

/-- The copy of a state kept by readers: the same values, with an empty active email read as
none. -/
def copy (s : AppState) : AppState := s.setActive s.active

end AppState

/-- A snapshot as one row of the history. -/
structure SnapshotRecord where
  id : Int := 0
  email : String := ""
  capturedAt : Instant := Instant.zero
  source : String := ""
  fiveHourUsed : Float := 0
  weeklyUsed : Float := 0
  fiveHourResetsAt : Instant := Instant.zero
  weeklyResetsAt : Instant := Instant.zero
  assumedReset : Bool := false
  deriving Inhabited

/-- A snapshot flattened for the history: assumed reset when either window was assumed. -/
def SnapshotRecord.ofSnapshot (email : String) (s : Snapshot) : SnapshotRecord :=
  { email, capturedAt := s.capturedAt, source := s.source,
    fiveHourUsed := s.fiveHour.usedPercent, weeklyUsed := s.weekly.usedPercent,
    fiveHourResetsAt := s.fiveHour.resetsAt, weeklyResetsAt := s.weekly.resetsAt,
    assumedReset := s.fiveHour.assumedReset || s.weekly.assumedReset }

/-- One attempted automated action, as audited in the history. -/
structure AutomationRun where
  id : Int := 0
  timestamp : Instant := Instant.zero
  email : String := ""
  kind : String := ""
  outcome : String := ""
  detail : String := ""
  deriving Inhabited

end QuotaWatch
