import QuotaWatch.Hud.Message
import QuotaWatch.Screen.Viewport
import QuotaWatch.View.Bars
/-!
**The history tab: the stored snapshots of the selected account.**

The tab shows the selected account (switched with `n` and `p`), a chart of the remaining
percentages of both windows over the stored snapshots, oldest first, with a legend and one
sparkline per window, and a table of the eight newest snapshots with their used percentages.

Whenever the selection changes to an account whose history was not asked for yet, the tab asks
for it, once per selection; later reloads come after each refresh.
-/

namespace QuotaWatch.Hud

open Term Screen

/-- The history tab. -/
structure HistoryTab where
  viewport : Viewport := {}
  /-- The account whose history was asked for last. -/
  requested : String := ""
  width : Int := 0
  height : Int := 0
  deriving Inhabited

/-- The height of the chart. -/
def chartHeight : Int := 10

/-- The rows of the table. -/
def tableRows : Nat := 8

/-- Text padded with spaces on the right to `n` characters. -/
def padEnd (s : String) (n : Nat) : String := s ++ spaces (n - s.length)

/-- Text padded with spaces on the left to `n` characters. -/
def padStart (s : String) (n : Nat) : String := spaces (n - s.length) ++ s

namespace HistoryTab

/-- The next account. -/
def nextAccount : Binding := ⟨["n"], "n", "next account"⟩
/-- The previous account. -/
def prevAccount : Binding := ⟨["p"], "p", "prev account"⟩
/-- Scrolling up. -/
def scrollUp : Binding := ⟨["up", "k"], "↑/k", "scroll up"⟩
/-- Scrolling down. -/
def scrollDown : Binding := ⟨["down", "j"], "↓/j", "scroll down"⟩

/-- Asks for the history of the selection, unless it was asked for already or there is no
selection or nothing to ask. -/
def ensureLoaded (h : HistoryTab) (b : Board) (hasBackend : Bool) : HistoryTab × Option Cmd :=
  let sel := b.selected
  if sel = "" || sel = h.requested then (h, none)
  else ({ h with requested := sel }, if hasBackend then some (.loadHistory sel) else none)

/-- Reacts to a message: `n` and `p` move the selection, other keys scroll; then the history of
the selection is asked for if needed. -/
def update (h : HistoryTab) (b : Board) (hasBackend : Bool) (msg : Msg) :
    HistoryTab × Board × Option Cmd :=
  let (h, b) := match msg with
    | .key k =>
      if nextAccount.matches k then (h, (b.selectNext 1).1)
      else if prevAccount.matches k then (h, (b.selectNext (-1)).1)
      else ({ h with viewport := h.viewport.update k }, b)
    | _ => (h, b)
  let (h, c) := h.ensureLoaded b hasBackend
  (h, b, c)

/-- Gives the tab its size. -/
def setSize (h : HistoryTab) (w ht : Int) : HistoryTab :=
  { h with width := w, height := ht, viewport := { h.viewport with width := max (w - 6) 0, height := max (ht - 2) 0 } }

/-- The tab's keys. -/
def shortHelp : List Binding := [nextAccount, prevAccount, scrollUp, scrollDown]

/-- The title block, naming the selected account. -/
def title (p : Profile) (b : Board) : String :=
  let label := match b.accounts.find? (·.email == b.selected) with
    | some a => a.label ++ " (" ++ a.email ++ ")"
    | none => "no account"
  joinVertical .start [Style.render p Theme.title "History",
    Style.render p Theme.help (label ++ "  ·  n/p to switch account"), ""]

/-- The chart card. -/
def chart (p : Profile) (width : Int) (email : String) (rs : List SnapshotRecord) : String :=
  let five := remainingSeries (rs.map (·.fiveHourUsed))
  let weekly := remainingSeries (rs.map (·.weeklyUsed))
  let w := max (width - 24) 20
  let caption := "remaining % over the last " ++ toString rs.length ++ " snapshots of " ++ email
  let plot := windowChart p five weekly w chartHeight caption
  let label := fun (k : WindowKind) => Style.render p Theme.progressLabel k.label
  let spark := joinVertical .start [windowLegend p, "",
    label .weekly ++ " " ++ sparkline weekly w, label .fiveHour ++ " " ++ sparkline five w]
  Style.render p Theme.card (joinVertical .start [plot, "", spark])

/-- One row of the table. -/
def row (p : Profile) (r : SnapshotRecord) : String :=
  let pct := fun (x : Float) => padStart (Decimal.fixedText x 0) 7 ++ "%"
  padEnd (r.capturedAt.utc.stamp [.monthAbbr, .lit " ", .day, .lit " ", .hour, .lit ":", .minute,
      .lit ":", .second]) 20 ++ " " ++ padEnd r.source 12 ++ " " ++ pct r.fiveHourUsed ++ " " ++
    pct r.weeklyUsed ++ (if r.assumedReset then Style.render p Theme.help "  assumed reset" else "")

/-- The table card of the newest snapshots. -/
def table (p : Profile) (rs : List SnapshotRecord) : String :=
  let header := Style.render p { bold := true, fg := some Theme.primary }
    (padEnd "Captured" 20 ++ " " ++ padEnd "Source" 12 ++ " " ++ padStart "5-Hour" 8 ++ " " ++
      padStart "Weekly" 8)
  let shown := rs.take tableRows
  let rows := [Style.render p Theme.cardTitle "Latest snapshots", "", header] ++ shown.map (row p) ++
    ["", Style.render p Theme.help ("Percentages are used quota. " ++ toString shown.length ++ " of " ++
      toString rs.length ++ " shown.")]
  Style.render p Theme.card (joinVertical .start rows)

/-- Draws the tab; the viewport keeps what it showed, for scrolling. -/
def view (p : Profile) (h : HistoryTab) (b : Board) : String × HistoryTab :=
  let email := b.selected
  let rs := b.historyOf email
  let body := if email = "" then [Style.render p Theme.help "No account selected yet."]
    else if rs.isEmpty then [Style.render p Theme.help ("No snapshots recorded for " ++ email ++ ".")]
    else [chart p h.width email rs, table p rs]
  let v := h.viewport.setContent (joinVertical .start (title p b :: body))
  (Style.render p { Theme.doc with width := h.width.toNat, height := h.height.toNat } (v.view p),
    { h with viewport := v })

end HistoryTab

end QuotaWatch.Hud
