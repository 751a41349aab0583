import QuotaWatch.Service.Runner
import QuotaWatch.SessionLog.Reader
/-!
**The refresh service.**

A refresh loads the state (missing is empty), makes the signed-in identity the active account
(a change drops the attribution of older events), reads its newest usage event (merging a
complete one and writing it to the history, forcing a refresh for an incomplete one), normalizes
every snapshot to now, evaluates alerts and due reminders, saves the state once, and delivers.
Problems that do not stop it are warnings; the result is kept and broadcast to subscribers.
-/

namespace QuotaWatch

/-- What one refresh did. -/
structure RefreshResult where
  at_ : Instant
  /-- The state after the refresh; none for a result that carries no state. -/
  state : Option AppState := none
  forcedRefresh : Option ActionResult := none
  recommendation : Decision
  activeEmail : String
  alerts : List AlertEvent := []
  reminders : List ReminderEvent := []
  warnings : List String := []
  hasAuth : Bool := false
  updated : Bool := false

/-- What the service tells its subscribers. -/
inductive ServiceEvent where
  /-- A refresh completed. -/
  | refreshed (r : RefreshResult)
  /-- A service failed, with its error's text. -/
  | failed (service : String) (error : String)

/-- The events broadcast to one subscriber and not yet taken, oldest first, and whether the
service has closed the subscription (events already in it can still be taken). -/
structure Mailbox where
  events : List ServiceEvent := []
  closed : Bool := false

/-- The refresh service: its runner and backend, and what it remembers between refreshes. -/
structure Manager where
  runner : Runner
  backend : Backend
  /-- Whether a refresh without a new event scans the whole tracked log for an account that
  has no snapshot yet. -/
  fullScan : Bool := false
  /-- Events before this time are not attributed to the active account. -/
  since : Option Instant := none
  lastActive : String := ""
  latest : Option RefreshResult := none
  /-- The subscribers' mailboxes, by subscription number. -/
  mailboxes : List Mailbox := []
  closed : Bool := false

/-- How many events a subscriber's mailbox holds; later ones are dropped while it is full. -/
def mailboxSize : Nat := 50

namespace Manager

/-- Sends an event to every subscriber whose mailbox has room. -/
def broadcast (m : Manager) (e : ServiceEvent) : Manager :=
  { m with mailboxes := m.mailboxes.map fun q =>
      if !q.closed && q.events.length < mailboxSize then { q with events := q.events ++ [e] } else q }

/-- Adds a subscriber, returning its number. -/
def subscribe (m : Manager) : Manager × Nat :=
  ({ m with mailboxes := m.mailboxes ++ [{}] }, m.mailboxes.length)

/-- Takes the oldest event of a subscriber's mailbox. -/
def take (m : Manager) (sub : Nat) : Manager × Option ServiceEvent :=
  match m.mailboxes[sub]? with
  | some ⟨e :: rest, c⟩ => ({ m with mailboxes := m.mailboxes.set sub ⟨rest, c⟩ }, some e)
  | _ => (m, none)

/-- Whether a subscriber has an event waiting. -/
def pending (m : Manager) (sub : Nat) : Bool :=
  match m.mailboxes[sub]? with
  | some q => !q.events.isEmpty
  | none => false

/-- Starts a new event cutoff when the signed-in account changes. -/
def trackActive (m : Manager) (stored current : String) (now : Instant) : Manager :=
  let prev := if m.lastActive = "" then stored else m.lastActive
  let m := if prev ≠ "" && prev ≠ current then { m with since := some now } else m
  { m with lastActive := current }

/-- What reading usage for the active account gave. -/
structure Ingested where
  warnings : List String := []
  forcedRefresh : Option ActionResult := none
  updated : Bool := false

/-- Reads the newest usage event for the active account and folds it into its snapshot. -/
def ingest (m : Manager) (s : Surroundings) (st : AppState) (acc : Account) (hasAuth : Bool) :
    Manager × AppState × Ingested :=
  let b := m.backend.note (.asked m.since)
  let m := { m with backend := b }
  match s.events m.since with
  | .error e => (m, st, { warnings := [e.message] })
  | .ok ev =>
    let ev := if ev.isNone && m.fullScan && acc.lastSnapshot.isNone then s.scan m.since else .ok ev
    match ev with
    | .error w => (m, st, { warnings := [w] })
    | .ok none => (m, st, {})
    | .ok (some e) =>
      match Snapshot.ofEvent (some e) "sessionLog" with
      | .error err =>
        let (b, st, fr, ferr) :=
          m.runner.forcedRefreshFor s (s.clock .forcedDecision) m.backend st acc.email hasAuth
        ({ m with backend := b }, st,
          { warnings := [err.message] ++ (ferr.map ActionError.message).toList,
            forcedRefresh := some fr })
      | .ok snap =>
        let (merged, changed) := Snapshot.merge acc.lastSnapshot snap
        if !changed then (m, st, {})
        else
          let st := st.updateAccount acc.email fun a =>
            { a with lastSnapshot := some merged, lastUpdated := some s.now }
          let b := m.backend.recordSnapshot (SnapshotRecord.ofSnapshot acc.email merged)
            (s.clock .snapshotStamp)
          ({ m with backend := b }, st, { updated := true })

/-- Every snapshot normalized to now. -/
def normalizeAll (st : AppState) (now : Instant) : AppState :=
  { st with accounts := st.accounts.map fun a =>
      match a.lastSnapshot with
      | some snap => { a with lastSnapshot := some (snap.normalize now) }
      | none => a }

/-- Evaluates the active account against its alert ledger. -/
def evaluate (t : Thresholds) (st : AppState) (email : String) : AppState × List AlertEvent :=
  match st.account? email with
  | none => (st, [])
  | some acc =>
    match t.evaluate acc (st.ledger.get? email) with
    | some ev => ({ st with ledger := st.ledger.set email ev.mark }, ev.events)
    | none => (st, [])

/-- Reads the identity: the signed-in email becomes the active one, starting a new event cutoff
when it changed; without an identity the stored active email stays, with a warning. Returns
whether the identity was read. -/
def identify (m : Manager) (s : Surroundings) (st : AppState) :
    Manager × AppState × Bool × List String :=
  match s.identity with
  | .ok email => (m.trackActive st.active email s.now, st.setActive email, true, [])
  | .error t => (m, st, false, ["identity: " ++ t])

/-- What a refresh has gathered by the time it saves: whether the identity was read, the
active email, the warnings so far, what reading usage gave, and the alerts and reminders that
wait for the save. -/
structure Gathered where
  hasAuth : Bool
  activeEmail : String
  warnings : List String
  got : Ingested
  alerts : List AlertEvent
  reminders : List ReminderEvent

/-- Step 3: reads usage for the active account, when it is configured. -/
def readUsage (m : Manager) (s : Surroundings) (st : AppState) (hasAuth : Bool) :
    Manager × AppState × Ingested :=
  match st.account? st.active with
  | some acc => m.ingest s st acc hasAuth
  | none => (m, st, {})

/-- Steps 4 and 5 on the state after reading usage: every snapshot normalized to the refresh's
time, the account of `email` evaluated against its ledger when it is `configured`, the reminders
due at the clock's reading for them marked, and the time of the refresh noted. Returns the state
to save, the alerts and the reminders. -/
def settle (r : Runner) (s : Surroundings) (email : String) (configured : Bool) (st : AppState) :
    AppState × List AlertEvent × List ReminderEvent :=
  let st := normalizeAll st s.now
  let (st, alerts) := if configured then evaluate r.thresholds st email else (st, [])
  let (st, reminders) := r.weeklyReminders s.zone (s.clock .reminders) st
  ({ st with lastRefresh := some s.now }, alerts, reminders)

/-- Steps 2 to 5 of a refresh, on the loaded state: the manager after reading usage, the state
to save, and what was gathered. -/
def gather (m : Manager) (s : Surroundings) (st : AppState) : Manager × AppState × Gathered :=
  let (m, st, hasAuth, warnings) := m.identify s st
  let activeEmail := st.active
  let configured := (st.account? activeEmail).isSome
  let warnings := if activeEmail ≠ "" && !configured then
      warnings ++ ["active account is not configured: " ++ activeEmail]
    else warnings
  let (m, st, got) := m.readUsage s st hasAuth
  let (st, alerts, reminders) := settle m.runner s activeEmail configured st
  (m, st, ⟨hasAuth, activeEmail, warnings, got, alerts, reminders⟩)

/-- Step 6, once the state `st` is saved in `b`: the recommendation is made, alerts and reminders
are delivered, and the result is kept as the latest and broadcast. -/
def publish (m : Manager) (s : Surroundings) (b : Backend) (st : AppState) (g : Gathered) :
    Manager × RefreshResult :=
  let advice := m.runner.thresholds.recommend st.accounts st.active
  let b := if g.alerts.isEmpty then b else b.note (.alerted g.alerts advice)
  let b := Runner.deliverReminders s b g.reminders
  let res : RefreshResult :=
    { at_ := s.now, state := some st, forcedRefresh := g.got.forcedRefresh, recommendation := advice,
      activeEmail := g.activeEmail, alerts := g.alerts, reminders := g.reminders,
      warnings := g.warnings ++ g.got.warnings, hasAuth := g.hasAuth, updated := g.got.updated }
  let m := { m with backend := b, latest := some res }
  (m.broadcast (.refreshed res), res)

/-- Refreshes: see the module description. A store failure stops the refresh. -/
def refresh (m : Manager) (s : Surroundings) : Manager × Except StoreError RefreshResult :=
  match m.backend.load with
  | .error e => (m, .error e)
  | .ok stored =>
    let (m, st, g) := m.gather s (stored.getD {})
    match m.backend.save (s.clock .refreshSave) st with
    | .error e => (m, .error e)
    | .ok b =>
      let (m, res) := m.publish s b st g
      (m, .ok res)

/-- Runs a daily hello for the signed-in account. -/
def dailyHello (m : Manager) (s : Surroundings) :
    Manager × ActionResult × Option ActionError :=
  let (b, res, err) := m.runner.runDailyHello s m.backend
  ({ m with backend := b }, res, err)

/-- Runs a forced refresh for the signed-in account. -/
def forcedRefresh (m : Manager) (s : Surroundings) :
    Manager × ActionResult × Option ActionError :=
  let (b, res, err) := m.runner.runForcedRefresh s m.backend
  ({ m with backend := b }, res, err)

/-- Replaces the configured accounts, keeping what is known about the ones that stay. -/
def setAccounts (m : Manager) (now : Instant) (cs : List AccountConfig) :
    Manager × Except StoreError AppState :=
  let b := m.backend
  match b.store.update b.files now (fun st => (st.applyConfigs cs).mapError .refused) with
  | .error e => (m, .error e)
  | .ok (st, files) => ({ m with backend := { b with files }.note (.saved st) }, .ok st)

/-- The newest snapshots of an email from the history database; nothing without one. -/
def snapshots (m : Manager) (email : String) (limit : Int) :
    Except HistoryError (List SnapshotRecord) :=
  match m.backend.history with
  | .recorder => .ok []
  | .database db => db.recentSnapshots email limit

/-- The newest automation runs from the history database; nothing without one. -/
def runs (m : Manager) (limit : Int) : Except HistoryError (List AutomationRun) :=
  match m.backend.history with
  | .recorder => .ok []
  | .database db => db.recentRuns limit

/-- Prunes history older than the retention of ninety days. -/
def prune (m : Manager) (now : Instant) : Manager :=
  match m.backend.history with
  | .recorder => m
  | .database db =>
    let (db, _) := db.prune (now.add (Duration.scale (-90 * 24) Duration.hour))
    { m with backend := { m.backend with history := .database db } }

/-- Closes the service: every subscription is closed. -/
def close (m : Manager) : Manager :=
  { m with mailboxes := m.mailboxes.map ({ · with closed := true }), closed := true }

end Manager

end QuotaWatch
