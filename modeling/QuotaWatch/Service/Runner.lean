import QuotaWatch.Persist.Store
import QuotaWatch.History.Database
import QuotaWatch.Gate.DailyHello
import QuotaWatch.Gate.ForcedRefresh
import QuotaWatch.Gate.WeeklyReminder
import QuotaWatch.Alert.Text
import QuotaWatch.Quota.Merge
/-!
**Automated actions: daily hellos, forced refreshes and weekly reminders.**

The runner acts on a backend (the store, the history, and a log of what the outside saw); what
the outside answers in a step is given as `Surroundings`, each later reading of a clock at the
place the code takes it. Every allowed action is persisted before its side effect and its outcome
after it: a daily hello needs an account with weekly quota left and the gate's leave; a forced
refresh also a credential; weekly reminders are due for accounts whose weekly window reset
unused, within the reminder hours and not too soon after the last.
-/

namespace QuotaWatch

/-- Why the usage source failed. -/
inductive SourceError where
  /-- No session log could be found. -/
  | logsNotFound
  /-- Any other failure, with its text. -/
  | other (text : String)
  deriving Inhabited

/-- The message of a source error. -/
def SourceError.message : SourceError → String
  | .logsNotFound => "session logs not found"
  | .other t => t

/-- An automated action. -/
inductive ActionKind where
  | dailyHello
  | forcedRefresh
  | weeklyReminder
  deriving DecidableEq, Inhabited, Repr

/-- The stored name of an action. -/
def ActionKind.name : ActionKind → String
  | .dailyHello => "dailyHello"
  | .forcedRefresh => "forcedRefresh"
  | .weeklyReminder => "weeklyReminder"

/-- Where a step reads a clock after its start: the runner's clock, the store's when it backs up
before a save, and the history database's when it stamps a row that comes without a time. -/
inductive Reading where
  /-- The runner, when a forced refresh that reading usage calls for decides. -/
  | forcedDecision
  /-- The runner, once a forced refresh's message has been sent. -/
  | sent
  /-- The runner, when the weekly reminders are decided. -/
  | reminders
  /-- The runner, once the reminder at a position has been handed to the sink. -/
  | delivered (i : Nat)
  /-- The store, before it saves an allowed action's record. -/
  | recordSave
  /-- The store, before it saves a forced refresh's outcome. -/
  | outcomeSave
  /-- The store, before it saves a refresh's state. -/
  | refreshSave
  /-- The history database, stamping a merged snapshot. -/
  | snapshotStamp
  /-- The history database, stamping an action's run (a reminder's by its position). -/
  | runStamp (kind : ActionKind) (i : Nat)

/-- What the surroundings answer during one step: the time it starts and the clocks' later
readings, the location of the clock, the signed-in email (or why it cannot be read), the newest
usage event written since a time (or why there is none), why sending fails if it does, why the
sink fails to show each reminder if it does, and the newest event of the whole tracked log since a
time, for a full scan (or why the log cannot be read). -/
structure Surroundings where
  now : Instant := Instant.zero
  zone : Location := .fixed now.offset
  clock : Reading → Instant := fun _ => now
  identity : Except String String := .ok ""
  events : Option Instant → Except SourceError (Option UsageEvent) := fun _ => .ok none
  sendError : Option String := none
  reminderError : Nat → Option String := fun _ => none
  scan : Option Instant → Except String (Option UsageEvent) := fun _ => .ok none
  deriving Inhabited

/-- Something the outside sees. -/
inductive Observation where
  /-- The usage source was asked for events since a time. -/
  | asked (since : Option Instant)
  /-- A message was sent with a model. -/
  | sent (model message : String)
  /-- Alerts were shown with the recommendation of the moment. -/
  | alerted (events : List AlertEvent) (rec : Decision)
  /-- A weekly reminder was handed to the sink. -/
  | reminded (e : ReminderEvent)
  /-- A daily hello was confirmed. -/
  | greeted (account : Account) (at_ : Instant)
  /-- A snapshot was written to the history. -/
  | snapshotStored (r : SnapshotRecord)
  /-- An automation run was written to the history. -/
  | runStored (run : AutomationRun)
  /-- A state was written to the store. -/
  | saved (st : AppState)

/-- Where history rows go: only to the observations, or also to a database. -/
inductive HistorySink where
  | recorder
  | database (db : HistoryDb)
  deriving Inhabited

/-- What the services act on. -/
structure Backend where
  store : Store
  files : FileTree
  history : HistorySink := .recorder
  seen : List Observation := []

namespace Backend

/-- Adds an observation. -/
def note (b : Backend) (o : Observation) : Backend := { b with seen := b.seen ++ [o] }

/-- The stored state, if any. -/
def load (b : Backend) : Except StoreError (Option AppState) := b.store.load b.files

/-- Saves a state; the outside sees it once it is written. -/
def save (b : Backend) (now : Instant) (st : AppState) : Except StoreError Backend := do
  let files ← b.store.save b.files now st
  return { b with files }.note (.saved st)

/-- Writes a snapshot to the history; a database gives it its row number, and stamps it with its
clock `stamp` when it comes without a time. -/
def recordSnapshot (b : Backend) (r : SnapshotRecord) (stamp : Instant) : Backend :=
  match b.history with
  | .recorder => b.note (.snapshotStored r)
  | .database db =>
    match db.insertSnapshot r stamp with
    | .ok (id, db) => { b with history := .database db }.note (.snapshotStored { r with id := id })
    | .error _ => b.note (.snapshotStored r)

/-- Writes an automation run to the history: sent, or failed with the error's text; a database
stamps it with its clock `stamp` when `at_` is no time. -/
def recordRun (b : Backend) (email kind : String) (err : Option String) (at_ stamp : Instant) :
    Backend :=
  let run : AutomationRun :=
    { timestamp := at_, email, kind, outcome := if err.isSome then "failed" else "sent",
      detail := err.getD "" }
  let b := match b.history with
    | .recorder => b
    | .database db =>
      match db.recordRun run stamp with
      | .ok (_, db) => { b with history := .database db }
      | .error _ => b
  b.note (.runStored run)

end Backend

/-- Why an action was not attempted. -/
inductive SkipReason where
  /-- A gate blocked it. -/
  | gate (r : BlockReason)
  /-- There is no stored state. -/
  | noState
  /-- The account is not configured. -/
  | notConfigured
  deriving DecidableEq, Inhabited, Repr

/-- The stored name of a skip reason. -/
def SkipReason.name : SkipReason → String
  | .gate r => r.name
  | .noState => "noState"
  | .notConfigured => "notConfigured"

/-- What an action did: for whom, why it was skipped if it was, and whether it was sent. -/
structure ActionResult where
  kind : ActionKind
  email : String := ""
  skipped : Option SkipReason := none
  sent : Bool := false
  deriving Inhabited

/-- The text of a store error. -/
def StoreError.message : StoreError → String
  | .directoryUnavailable c => "state directory unavailable: " ++ c
  | .failedToRead c => "failed to read state: " ++ c
  | .failedToWrite c => "failed to write state: " ++ c
  | .refused e => e.message

/-- Why an action failed. -/
inductive ActionError where
  /-- The state could not be read or written. -/
  | store (e : StoreError)
  /-- The identity could not be read. -/
  | identity (text : String)
  /-- Sending failed. -/
  | send (kind : ActionKind) (text : String)
  deriving Inhabited

/-- The text of an action error. -/
def ActionError.message : ActionError → String
  | .store e => e.message
  | .identity t => "load identity: " ++ t
  | .send .dailyHello t => "daily hello: " ++ t
  | .send _ t => "forced refresh: " ++ t

/-- What a runner needs: the thresholds, the model and message to send, and its policies. -/
structure Runner where
  thresholds : Thresholds
  model : String := "gpt-5.1-codex-mini"
  message : String := "hi"
  daily : DailyHelloPolicy := {}
  forced : ForcedRefreshPolicy := {}
  reminder : ReminderPolicy := {}
  deriving Inhabited

/-- What an action step gives back: the backend, the state as the action left it, the result
and the error if it failed. -/
abbrev ActionOutcome := Backend × AppState × ActionResult × Option ActionError

namespace Runner

/-- The message to send; an empty one falls back to `hi`. -/
def prompt (r : Runner) : String := if r.message = "" then "hi" else r.message

/-- Whether an account's weekly quota is at or below the depleted threshold. -/
def weeklyDepleted (r : Runner) (a : Option Account) : Bool :=
  match a.bind (·.remaining .weekly) with
  | some rem => rem.atMost r.thresholds.depleted
  | none => false

/-- Sends a daily hello for an account if its policy allows. -/
def dailyHelloFor (r : Runner) (s : Surroundings) (b : Backend) (st : AppState) (email : String) :
    ActionOutcome :=
  let now := s.now
  let res : ActionResult := { kind := .dailyHello, email }
  match st.account? email with
  | none => (b, st, { res with skipped := some .notConfigured }, none)
  | some acc =>
    if r.weeklyDepleted (some acc) then
      (b, st, { res with skipped := some (.gate .weeklyDepleted) }, none)
    else
      let started := fiveHourStarted (some acc) s.zone now r.daily.startHour
      let d := r.daily.decide s.zone now ((st.dailyHello.get? email).getD {}) started
      match d.reason with
      | some why => (b, st, { res with skipped := some (.gate why) }, none)
      | none =>
        let st := { st with dailyHello := st.dailyHello.set email d.record }
        match b.save (s.clock .recordSave) st with
        | .error e => (b, st, res, some (.store e))
        | .ok b =>
          let b := (b.note (.sent r.model r.prompt)).recordRun email "dailyHello" s.sendError now
            (s.clock (.runStamp .dailyHello 0))
          match s.sendError with
          | some t => (b, st, res, some (.send .dailyHello t))
          | none => (b.note (.greeted acc now), st, { res with sent := true }, none)

/-- Loads the state and the identity, then sends a daily hello for the signed-in account. -/
def runDailyHello (r : Runner) (s : Surroundings) (b : Backend) :
    Backend × ActionResult × Option ActionError :=
  let res : ActionResult := { kind := .dailyHello }
  match b.load with
  | .error e => (b, res, some (.store e))
  | .ok none => (b, { res with skipped := some .noState }, none)
  | .ok (some st) =>
    match s.identity with
    | .error t => (b, res, some (.identity t))
    | .ok email =>
      let (b, _, res, err) := r.dailyHelloFor s b st email
      (b, res, err)

/-- Sends a forced refresh for an account if its policy allows at the reading `now`, recording
success or failure in its record at the reading once the message has been sent. -/
def forcedRefreshFor (r : Runner) (s : Surroundings) (now : Instant) (b : Backend) (st : AppState)
    (email : String) (hasAuth : Bool) : ActionOutcome :=
  let res : ActionResult := { kind := .forcedRefresh, email }
  let weekly := (st.account? email).bind (·.remaining .weekly)
  let d := r.forced.decide r.thresholds now ((st.forcedRefresh.get? email).getD {}) hasAuth weekly
  match d.reason with
  | some why => (b, st, { res with skipped := some (.gate why) }, none)
  | none =>
    let st := { st with forcedRefresh := st.forcedRefresh.set email d.record }
    match b.save (s.clock .recordSave) st with
    | .error e => (b, st, res, some (.store e))
    | .ok b =>
      let b := b.note (.sent r.model r.prompt)
      let record := match s.sendError with
        | none => d.record.markSuccess (s.clock .sent)
        | some _ => d.record.markFailure (s.clock .sent)
      let st := { st with forcedRefresh := st.forcedRefresh.set email record }
      let (b, saveErr) := match b.save (s.clock .outcomeSave) st with
        | .ok b => (b, none)
        | .error e => (b, some e)
      let b := b.recordRun email "forcedRefresh" s.sendError now (s.clock (.runStamp .forcedRefresh 0))
      match s.sendError with
      | some t => (b, st, res, some (.send .forcedRefresh t))
      | none => (b, st, { res with sent := true }, saveErr.map .store)

/-- Loads the state and the identity, then runs a forced refresh for the signed-in account;
without an identity it is blocked for want of a credential. -/
def runForcedRefresh (r : Runner) (s : Surroundings) (b : Backend) :
    Backend × ActionResult × Option ActionError :=
  let res : ActionResult := { kind := .forcedRefresh }
  match b.load with
  | .error e => (b, res, some (.store e))
  | .ok none => (b, { res with skipped := some .noState }, none)
  | .ok (some st) =>
    let (email, hasAuth) := match s.identity with
      | .ok email => (email, true)
      | .error _ => ("", false)
    let (b, _, res, err) := r.forcedRefreshFor s s.now b st email hasAuth
    (b, res, err)

/-- Marks the reminder of one account when it is due at `now` in the location `loc`, adding it to
the due ones. -/
def remindOne (r : Runner) (loc : Location) (now : Instant) (acc : AppState × List ReminderEvent)
    (a : Account) : AppState × List ReminderEvent :=
  let (st, due) := acc
  match a.lastSnapshot with
  | none => acc
  | some snap =>
    let d := r.reminder.decide loc now snap.weekly ((st.reminders.get? a.email).getD {})
    match d.reason with
    | some _ => acc
    | none =>
      ({ st with reminders := st.reminders.set a.email d.record },
        due ++ [⟨snap.weekly.resetsAt, a.email, a.label, a.ordinal⟩])

/-- Marks the reminders that are due and returns them, in account order. -/
def weeklyReminders (r : Runner) (loc : Location) (now : Instant) (st : AppState) :
    AppState × List ReminderEvent :=
  st.accounts.foldl (r.remindOne loc now) (st, [])

/-- Hands the reminders from the position `i` on to the sink, and writes a run for each, sent or
failed as the sink answers, at the reading once it was handed over. -/
def deliverFrom (s : Surroundings) (i : Nat) : Backend → List ReminderEvent → Backend
  | b, [] => b
  | b, e :: rest =>
    deliverFrom s (i + 1) ((b.note (.reminded e)).recordRun e.email "weeklyReminder"
      (s.reminderError i) (s.clock (.delivered i)) (s.clock (.runStamp .weeklyReminder i))) rest

/-- Hands the reminders to the sink and writes a run for each. -/
def deliverReminders (s : Surroundings) (b : Backend) (rs : List ReminderEvent) : Backend :=
  deliverFrom s 0 b rs

end Runner

end QuotaWatch
