import QuotaWatch.Hud.QuotaTab
import QuotaWatch.Hud.HistoryTab
import QuotaWatch.Hud.InfoTab
/-!
**The dashboard: tabs, keys, the status line, help and notices.**

The dashboard shows three tabs (quota, history, information), the active tab, and a status line
(a spinner while a user refresh runs, else the time of the last result) with the main keys. `q`
or Ctrl+C quits, `?` toggles help, `1`–`3`, Tab and the arrows choose tabs, `r` or Ctrl+R
refreshes; every message reaches the active tab. A refresh result is stored, its account's
history reloaded and its alerts counted; a failed service is an error.
-/

namespace QuotaWatch.Hud

open Term Screen

/-- A tab of the dashboard. -/
inductive Tab where
  | quota (t : QuotaTab)
  | history (t : HistoryTab)
  | info (t : InfoTab)
  deriving Inhabited

namespace Tab

/-- Starts a tab. -/
def init (t : Tab) (b : Board) (hasBackend : Bool) : Tab × Option Cmd :=
  match t with
  | .quota q => (t, q.init)
  | .history h =>
    let (h, c) := h.ensureLoaded b hasBackend
    (.history h, c)
  | .info _ => (t, none)

/-- Passes a message to a tab. -/
def update (t : Tab) (b : Board) (hasBackend : Bool) (msg : Msg) : Tab × Board × Option Cmd :=
  match t with
  | .quota q =>
    let (q, c) := q.update b msg
    (.quota q, b, c)
  | .history h =>
    let (h, b, c) := h.update b hasBackend msg
    (.history h, b, c)
  | .info i => (.info (i.update msg), b, none)

/-- Gives a tab its size. -/
def setSize (t : Tab) (w h : Int) : Tab :=
  match t with
  | .quota q => .quota (q.setSize w h)
  | .history x => .history (x.setSize w h)
  | .info i => .info (i.setSize w h)

/-- A tab's keys. -/
def shortHelp : Tab → List Binding
  | .quota _ => QuotaTab.shortHelp
  | .history _ => HistoryTab.shortHelp
  | .info _ => InfoTab.shortHelp

/-- Draws a tab. -/
def view (p : Profile) (t : Tab) (b : Board) : String × Tab :=
  match t with
  | .quota q =>
    let (s, q) := q.view p b
    (s, .quota q)
  | .history h =>
    let (s, h) := h.view p b
    (s, .history h)
  | .info i =>
    let (s, i) := i.view p b
    (s, .info i)

end Tab

/-- The name of a tab number. -/
def tabName (t : TabId) : String :=
  match t with
  | 0 => "Dashboard"
  | 1 => "History"
  | 2 => "Info"
  | _ => "Unknown"

/-- Grey. -/
def subtleColor : Color := .rgb 0x5C 0x5C 0x5C
/-- Green. -/
def highlightColor : Color := .rgb 0x04 0xB5 0x75
/-- Orange. -/
def warningColor : Color := .rgb 0xFF 0x8C 0x00
/-- Pink. -/
def errorColor : Color := .rgb 0xFF 0x5F 0x87
/-- Light blue. -/
def infoColor : Color := .rgb 0x5F 0xAF 0xFF

/-- The dashboard. -/
structure Dashboard where
  board : Board
  /-- Whether a service is behind the dashboard, to refresh and to read history from. -/
  hasBackend : Bool
  tabs : List (Option Tab) := [none, none, none]
  spinner : Spinner
  subscription : Option Nat := none
  active : TabId := 0
  width : Int := 0
  height : Int := 0
  help : Bool := false
  ready : Bool := false
  deriving Inhabited

namespace Dashboard

/-- Quitting. -/
def quitKey : Binding := ⟨["q", "ctrl+c"], "q", "quit"⟩
/-- Toggling help. -/
def helpKey : Binding := ⟨["?"], "?", "toggle help"⟩
/-- Closing help. -/
def escapeKey : Binding := ⟨["esc"], "esc", "close"⟩
/-- The first tab. -/
def tab1Key : Binding := ⟨["1"], "1", "dashboard"⟩
/-- The second tab. -/
def tab2Key : Binding := ⟨["2"], "2", "history"⟩
/-- The third tab. -/
def tab3Key : Binding := ⟨["3"], "3", "info"⟩
/-- The next tab. -/
def nextTabKey : Binding := ⟨["tab", "right"], "tab/→", "next tab"⟩
/-- The previous tab. -/
def prevTabKey : Binding := ⟨["shift+tab", "left"], "shift+tab/←", "prev tab"⟩
/-- Refreshing. -/
def refreshKey : Binding := ⟨["r", "ctrl+r"], "r", "refresh"⟩

/-- The keys on the status line. -/
def statusKeys : List Binding := [helpKey, refreshKey, quitKey]

/-- A dashboard whose board's clock starts at `clock`, whose spinner is numbered `spinnerId`. -/
def make (clock : Instant) (hasBackend : Bool) (spinnerId : Nat) : Dashboard :=
  { board := Board.start clock, hasBackend,
    spinner := { frames := Frames.dot, color := Theme.primary, id := spinnerId } }

/-- Gives every tab its size: the screen less the tab bar and the status line. -/
def sizeTabs (d : Dashboard) : Dashboard :=
  let h := max 0 (d.height - 4)
  { d with tabs := d.tabs.map (·.map (·.setSize d.width h)) }

/-- Sets the tabs. -/
def setTabs (d : Dashboard) (tabs : List (Option Tab)) : Dashboard :=
  let d := { d with tabs }
  if d.width > 0 && d.height > 0 then d.sizeTabs else d

/-- Starts the dashboard, with the service's latest result if there is one. -/
def init (d : Dashboard) (latest : Option RefreshResult) : Dashboard × Option Cmd :=
  let d := match latest with
    | some r => if d.hasBackend then { d with board := d.board.setResult r } else d
    | none => d
  let base := [some (Cmd.send (.spin d.spinner.tick)), some (Cmd.later .tick)] ++
    (if d.hasBackend then [some Cmd.subscribe] else [])
  let (tabs, cmds) := d.tabs.foldl (fun (acc : List (Option Tab) × List (Option Cmd)) t =>
    match t with
    | some t =>
      let (t, c) := t.init d.board d.hasBackend
      (acc.1 ++ [some t], acc.2 ++ [c])
    | none => (acc.1 ++ [none], acc.2)) ([], [])
  ({ d with tabs }, Cmd.batchOf (base ++ cmds))

/-- Switches to a tab. -/
def switchTab (d : Dashboard) (t : TabId) : Dashboard := { d with active := t }.sizeTabs

/-- Starts a refresh asked for by the user, unless there is no service or one is running. -/
def startRefresh (d : Dashboard) : Dashboard × Option Cmd :=
  if !d.hasBackend || d.board.refreshing then (d, none)
  else ({ d with board := { d.board with refreshing := true } }, some .refresh)

/-- A notice command: a message of a kind for a while. -/
def noticeCmd (k : NoticeKind) (message : String) (seconds : Int64) : Option Cmd :=
  some (.send (.notify k message (Duration.scale seconds Duration.second)))

/-- Handles a key press at the dashboard's level. -/
def handleKey (d : Dashboard) (k : Key) : Dashboard × Option Cmd :=
  let n : Int := d.tabs.length
  if quitKey.matches k then (d, some (.send .quit))
  else if helpKey.matches k then ({ d with help := !d.help }, none)
  else if escapeKey.matches k then ({ d with help := false }, none)
  else if tab1Key.matches k then (d.switchTab 0, none)
  else if tab2Key.matches k then (d.switchTab 1, none)
  else if tab3Key.matches k then (d.switchTab 2, none)
  else if nextTabKey.matches k then (if d.help then d else d.switchTab ((d.active + 1).tmod n), none)
  else if prevTabKey.matches k then (if d.help then d else d.switchTab ((d.active - 1 + n).tmod n), none)
  else if refreshKey.matches k then d.startRefresh
  else (d, none)

/-- Handles an event of the service. -/
def handleEvent (d : Dashboard) : ServiceEvent → Dashboard × Option Cmd
  | .refreshed r =>
    let d := { d with board := d.board.setResult r }
    let sel := d.board.selected
    let load := if d.hasBackend && sel ≠ "" then some (Cmd.loadHistory sel) else none
    let alerts := if r.alerts.isEmpty then none
      else noticeCmd .warning (toString r.alerts.length ++ " quota alert(s)") 5
    (d, Cmd.batchOf [load, alerts])
  | .failed service error => (d, noticeCmd .error ("[" ++ service ++ "] " ++ error) 10)

/-- Handles the messages that are not keys, sizes or spinner ticks. -/
def handleOther (d : Dashboard) : Msg → Dashboard × List (Option Cmd)
  | .tick => ({ d with board := d.board.clearExpired }, [some (.later .tick)])
  | .subscribed sub => ({ d with subscription := some sub }, [some (.await sub)])
  | .service e =>
    let (d, c) := d.handleEvent e
    (d, [c] ++ (d.subscription.map fun s => some (Cmd.await s)).toList)
  | .refresh =>
    let (d, c) := d.startRefresh
    (d, [c])
  | .refreshDone f =>
    let d := { d with board := { d.board with refreshing := false } }
    let c := match f with
      | none => noticeCmd .success "Refreshed" 5
      | some .inProgress => noticeCmd .info "Refresh already running" 3
      | some (.failed e) => noticeCmd .error ("Refresh failed: " ++ e) 10
    (d, [c])
  | .notify k message lifetime =>
    let (b, id) := d.board.addNotice k message lifetime
    ({ d with board := b }, if lifetime.toInt > 0 then [some (.later (.removeNotice id))] else [])
  | .removeNotice id => ({ d with board := d.board.removeNotice id }, [])
  | .historyLoaded email r =>
    match r with
    | .error e => (d, [noticeCmd .error ("History unavailable: " ++ e) 10])
    | .ok rs => ({ d with board := d.board.setHistory email rs }, [])
  | .switchTab t => (d.switchTab t, [])
  | .toggleHelp => ({ d with help := !d.help }, [])
  | _ => (d, [])

/-- The active tab, if there is one. -/
def activeTab (d : Dashboard) : Option Tab :=
  if d.active < 0 then none else (d.tabs[d.active.toNat]?).bind id

/-- Passes a message to the active tab. -/
def updateActive (d : Dashboard) (msg : Msg) : Dashboard × Option Cmd :=
  match d.activeTab with
  | some t =>
    let (t, b, c) := t.update d.board d.hasBackend msg
    ({ d with board := b, tabs := d.tabs.set d.active.toNat (some t) }, c)
  | none => (d, none)

/-- Takes one message. -/
def update (d : Dashboard) (msg : Msg) : Dashboard × Option Cmd :=
  let (d, cs) := match msg with
    | .resize w h => ({ d with width := w, height := h, ready := true }.sizeTabs, [])
    | .key k =>
      let (d, c) := d.handleKey k
      (d, [c])
    | .spin t =>
      match d.spinner.take t with
      | some (s, next) => ({ d with spinner := s }, [some (Cmd.later (.spin next))])
      | none => (d, [])
    | m => d.handleOther m
  let (d, c) := d.updateActive msg
  (d, Cmd.batchOf (cs ++ [c]))

/-- The tab bar. -/
def navbar (p : Profile) (d : Dashboard) : String :=
  let tabs := ([0, 1, 2] : List Int).map fun i =>
    if i = d.active then
      Style.render p { bold := true, fg := some highlightColor, padding := ⟨0, 2, 0, 2⟩ }
        ("[" ++ toString (i + 1) ++ "] " ++ tabName i)
    else
      Style.render p { fg := some subtleColor, padding := ⟨0, 2, 0, 2⟩ }
        (" " ++ toString (i + 1) ++ "  " ++ tabName i)
  let bar : Style := {
    padding := ⟨0, 1, 0, 1⟩
    border := some Border.normal
    borderSides := some ⟨false, false, true, false⟩
    borderFg := some subtleColor
    width := d.width.toNat }
  Style.render p bar (joinHorizontal .start tabs)

/-- The status line. -/
def status (p : Profile) (d : Dashboard) : String :=
  let first := if d.board.refreshing then [d.spinner.view p ++ " refreshing"]
    else match d.board.latest with
      | some r =>
        ["updated " ++ r.at_.stamp [.hour, .lit ":", .minute, .lit ":", .second]] ++
          (if r.hasAuth then [] else ["not signed in"])
      | none => [d.spinner.view p ++ " waiting for first refresh"]
  let keys := statusKeys.map fun b =>
    Style.render p Theme.helpKey b.helpKey ++ " " ++ Style.render p Theme.helpDesc b.helpDesc
  let line := (Style.render p { fg := some subtleColor } " • ").intercalate (first ++ keys)
  let line := if d.width > 0 then truncate line (d.width - 2) "…" else line
  Style.render p { fg := some subtleColor, padding := ⟨0, 1, 0, 1⟩ } line

/-- The help panel. -/
def helpPanel (p : Profile) (d : Dashboard) : String :=
  let hi := fun (s : String) => Style.render p { fg := some highlightColor } s
  let tabPart := match d.activeTab with
    | some t =>
      match t.shortHelp with
      | [] => []
      | bs => [hi (tabName d.active ++ " Tab")] ++
          bs.map (fun b => "  " ++ padEnd b.helpKey 10 ++ " " ++ b.helpDesc) ++ [""]
    | none => []
  let ls := [Style.render p { bold := true, fg := some highlightColor } "Keyboard Shortcuts", "",
    hi "Navigation", "  1-3        Switch tabs", "  Tab        Next tab", "  Shift+Tab  Previous tab", "",
    hi "Actions", "  r          Refresh now", "  ?          Toggle help", "  q/Ctrl+C   Quit", ""] ++
    tabPart ++ [Style.render p { fg := some subtleColor } "Press ? or Esc to close"]
  Style.render p Theme.helpPanel ("\n".intercalate ls)

/-- The notices, each in its box. -/
def toasts (p : Profile) (d : Dashboard) : List String :=
  d.board.notices.map fun n =>
    let (st, label) : Style × String := match n.kind.code with
      | 0 => ({ fg := some highlightColor, padding := ⟨0, 1, 0, 1⟩ }, "[OK]")
      | 1 => ({ fg := some errorColor, bold := true, padding := ⟨0, 1, 0, 1⟩ }, "[ERR]")
      | 2 => ({ fg := some warningColor, padding := ⟨0, 1, 0, 1⟩ }, "[WARN]")
      | _ => ({ fg := some infoColor, padding := ⟨0, 1, 0, 1⟩ }, "[INFO]")
    Style.render p Theme.toast (Style.render p st (label ++ " " ++ n.message))

/-- A block drawn over the screen, centred. -/
def overlayCentered (d : Dashboard) (screen overlay : String) : String :=
  let main := lines screen
  let panel := lines overlay
  let ow := blockWidth overlay
  let y := max ((d.height - panel.length).tdiv 2) 0
  let x := max ((d.width - ow).tdiv 2) 0
  let main := panel.zipIdx.foldl (fun (ms : List String) (ol, i) =>
    let row := y.toNat + i
    match ms[row]? with
    | some l =>
      let left := truncate l x ""
      let right := truncateLeft l (x + ow) ""
      let left := left ++ spaces (x.toNat - Term.width left)
      ms.set row (left ++ ol ++ right)
    | none => ms) main
  "\n".intercalate main

/-- Notices stacked at the right edge, from the third line down. -/
def overlayToasts (d : Dashboard) (screen : String) (ts : List String) : String :=
  let stack := joinVertical .stop ts
  let x := max (d.width - blockWidth stack - 2) 0
  let main := (lines stack).zipIdx.foldl (fun (ms : List String) (tl, i) =>
    let row := 2 + i
    match ms[row]? with
    | some l =>
      let w := Term.width l
      ms.set row (if (w : Int) < x then l ++ spaces (x.toNat - w) ++ tl else truncate l x "" ++ tl)
    | none => ms) (lines screen)
  "\n".intercalate main

/-- The padding of plain content. -/
def content : Style := { padding := ⟨1, 2, 1, 2⟩ }

/-- Draws the dashboard; the active tab keeps what it showed, for scrolling. -/
def view (p : Profile) (d : Dashboard) : String × Dashboard :=
  let nav := if d.width > 0 then navbar p d ++ "\n" else ""
  if !d.ready then (nav ++ Style.render p content (d.spinner.view p ++ " Loading..."), d)
  else
    let (body, d) := match d.activeTab with
      | some t =>
        let (s, t) := t.view p d.board
        (s, { d with tabs := d.tabs.set d.active.toNat (some t) })
      | none =>
        (Style.render p content (Style.render p { fg := some subtleColor }
          (tabName d.active ++ " is unavailable.")), d)
    let screen := nav ++ body ++ "\n" ++ status p d
    let screen := if d.help then d.overlayCentered screen (helpPanel p d) else screen
    match toasts p d with
    | [] => (screen, d)
    | ts => (d.overlayToasts screen ts, d)

end Dashboard

end QuotaWatch.Hud
