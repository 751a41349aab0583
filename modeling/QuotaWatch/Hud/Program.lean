import QuotaWatch.Hud.Dashboard
/-!
**The dashboard's program: running its commands and feeding it messages.**

The program owns the dashboard, the refresh service and the surroundings. Messages wait in a
queue and are handed over one at a time; the command answered runs at once: immediate messages
join the queue (delayed ones never arrive), batches run in order, refreshes run on the service
unless held, history reads ask for the 200 newest snapshots, and waits for the service's next
event are parked until one arrives. A run stops after 500 messages; the quit message stops the
program.
-/

namespace QuotaWatch.Hud

/-- How many snapshots the history tab reads. -/
def historyLimit : Int := 200

/-- How many messages one run of the queue hands over at most. -/
def drainLimit : Nat := 500

/-- The dashboard with its service and queue. -/
structure Program where
  dashboard : Dashboard
  service : Manager
  /-- What refreshes see. -/
  world : Surroundings
  queue : List Msg := []
  /-- Parked waits, by subscription, oldest first. -/
  waits : List Nat := []
  /-- Refreshes waiting for release. -/
  held : Nat := 0
  /-- Whether refreshes are held. -/
  holding : Bool := false
  quit : Bool := false

namespace Program

/-- Adds a message to the back of the queue. -/
def enqueue (p : Program) (m : Msg) : Program := { p with queue := p.queue ++ [m] }

/-- Runs a refresh on the service and queues how it ended. -/
def refreshNow (p : Program) : Program :=
  let (m, r) := p.service.refresh p.world
  let done := match r with
    | .ok _ => Msg.refreshDone none
    | .error e => .refreshDone (some (.failed e.message))
  { p with service := m }.enqueue done

/-- Reads the stored snapshots of an account from the service and queues them. -/
def loadHistory (p : Program) (email : String) : Program :=
  let r := (p.service.snapshots email historyLimit).mapError fun e =>
    "failed to query snapshots: " ++ e.message
  p.enqueue (.historyLoaded email r)

/-- Registers a subscription with the service and queues its number. -/
def subscribe (p : Program) : Program :=
  let (m, sub) := p.service.subscribe
  { p with service := m }.enqueue (.subscribed sub)

mutual

/-- Runs a command. -/
def run (p : Program) : Cmd → Program
  | .send m => p.enqueue m
  | .later _ => p
  | .batch cs => runAll p cs
  | .refresh => if p.holding then { p with held := p.held + 1 } else p.refreshNow
  | .loadHistory email => p.loadHistory email
  | .subscribe => p.subscribe
  | .await sub => { p with waits := p.waits ++ [sub] }

/-- Runs commands in order. -/
def runAll (p : Program) : List Cmd → Program
  | [] => p
  | c :: cs => runAll (run p c) cs

end

/-- Hands a message to the dashboard and runs its answer; the quit message stops the program
instead. -/
def deliver (p : Program) : Msg → Program
  | .quit => { p with quit := true }
  | m =>
    let (d, c) := p.dashboard.update m
    let p := { p with dashboard := d }
    match c with
    | some c => p.run c
    | none => p

/-- The oldest parked wait whose subscription holds an event, with the event, taken. -/
def wake (p : Program) : Option (Program × ServiceEvent) :=
  match p.waits.find? p.service.pending with
  | none => none
  | some sub =>
    let (m, e) := p.service.take sub
    e.map fun e => ({ p with service := m, waits := p.waits.erase sub }, e)

/-- Hands over queued messages, and events to parked waits once the queue is empty, at most
`budget` of them. -/
def drainWith (p : Program) : Nat → Program
  | 0 => p
  | n + 1 =>
    match p.queue with
    | m :: rest => drainWith ({ p with queue := rest }.deliver m) n
    | [] =>
      match p.wake with
      | some (p, e) => drainWith (p.deliver (.service e)) n
      | none => p

/-- Hands over queued messages and waiting events, at most 500. -/
def drain (p : Program) : Program := p.drainWith drainLimit

/-- Runs the held refreshes. -/
def release (p : Program) : Program :=
  (List.replicate p.held Cmd.refresh).foldl run { p with held := 0, holding := false }

/-- Starts the dashboard, with the service's latest result, and runs what it asks for. -/
def start (p : Program) : Program :=
  let (d, c) := p.dashboard.init p.service.latest
  let p := { p with dashboard := d }
  (match c with
    | some c => p.run c
    | none => p).drain

end Program

end QuotaWatch.Hud
