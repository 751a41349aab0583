import QuotaWatch.Hud.Board
import QuotaWatch.Screen.Key
import QuotaWatch.Screen.Spinner
/-!
**What the dashboard reacts to, and what it asks for.**

The dashboard is a state machine: it takes one message at a time and answers with its new
state and, perhaps, a command. A command is work done outside it whose outcome comes back as a
message: a message sent at once, one sent after a delay (ticks and timers), a refresh, a read of
the stored history, a subscription to the service's events, or a wait for the next one. Several
commands are batched into one; an empty batch is no command, and a batch of one is that command.
-/

namespace QuotaWatch.Hud

/-- Why a refresh asked for by the user did not complete. -/
inductive RefreshFailure where
  /-- Another refresh was running. -/
  | inProgress
  /-- The refresh failed with a message. -/
  | failed (message : String)
  deriving Inhabited

/-- The tab numbers: dashboard, history, information. -/
abbrev TabId := Int

/-- A message to the dashboard. -/
inductive Msg where
  /-- The terminal has this size. -/
  | resize (width height : Int)
  | key (k : Screen.Key)
  /-- A spinner's tick. -/
  | spin (t : Screen.SpinnerTick)
  /-- The periodic tick, which clears expired notices. -/
  | tick
  /-- A refresh is asked for. -/
  | refresh
  /-- A refresh asked for by the user ended, with its failure if it failed. -/
  | refreshDone (failure : Option RefreshFailure)
  /-- The service's events now arrive on this subscription. -/
  | subscribed (sub : Nat)
  | service (e : ServiceEvent)
  /-- The stored snapshots of an account, or why they could not be read. -/
  | historyLoaded (email : String) (records : Except String (List SnapshotRecord))
  /-- Another account is to be shown. -/
  | select (email : String)
  | notify (kind : NoticeKind) (message : String) (lifetime : Duration)
  | removeNotice (id : String)
  | switchTab (tab : TabId)
  | toggleHelp
  /-- The program is to stop. -/
  | quit
  /-- A message meant for something else. -/
  | other
  deriving Inhabited

/-- Work done outside the dashboard, whose outcome comes back as a message. -/
inductive Cmd where
  /-- Sends a message at once. -/
  | send (m : Msg)
  /-- Sends a message after a delay. -/
  | later (m : Msg)
  | batch (cs : List Cmd)
  /-- Runs a refresh, then sends how it ended. -/
  | refresh
  /-- Reads the stored snapshots of an account. -/
  | loadHistory (email : String)
  /-- Subscribes to the service's events. -/
  | subscribe
  /-- Waits for the next event of a subscription. -/
  | await (sub : Nat)
  deriving Inhabited

/-- Commands run together: none when there are none, the command itself when there is one. -/
def Cmd.batchOf (cs : List (Option Cmd)) : Option Cmd :=
  match cs.filterMap id with
  | [] => none
  | [c] => some c
  | cs => some (.batch cs)

end QuotaWatch.Hud
