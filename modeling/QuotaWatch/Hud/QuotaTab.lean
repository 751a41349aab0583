import QuotaWatch.Hud.Message
import QuotaWatch.Screen.Viewport
import QuotaWatch.View.Bars
/-!
**The quota tab: one card per account.**

Before the first result the tab shows a centred spinner. Then a scrolling viewport shows a
title, the recommendation (red when every account is depleted), the warnings, and one card per
account (in priority order when toggled by `o`): a header with label, email and the badges
`ACTIVE`, `NEXT` and `DEPLETED`, a bar per window, and when it was last seen. Active and
recommended cards get green and purple borders.
-/

namespace QuotaWatch.Hud

open Term Screen

/-- The quota tab. -/
structure QuotaTab where
  thresholds : Thresholds
  spinner : LoadingSpinner
  viewport : Viewport := {}
  width : Int := 0
  height : Int := 0
  /-- Whether the cards are in the recommended order. -/
  priority : Bool := false
  deriving Inhabited

namespace QuotaTab

/-- Toggling the priority order. -/
def toggleOrder : Binding := ⟨["o"], "o", "toggle priority order"⟩
/-- Scrolling up. -/
def scrollUp : Binding := ⟨["up", "k"], "↑/k", "scroll up"⟩
/-- Scrolling down. -/
def scrollDown : Binding := ⟨["down", "j"], "↓/j", "scroll down"⟩

/-- A quota tab whose spinner is numbered `spinnerId`. -/
def make (t : Thresholds) (spinnerId : Nat) : QuotaTab :=
  { thresholds := t,
    spinner := LoadingSpinner.make spinnerId "Reading usage..."
      "Waiting for the first refresh of your Codex session logs" }

/-- Starts the spinner. -/
def init (q : QuotaTab) : Option Cmd := some (.send (.spin q.spinner.spinner.tick))

/-- Reacts to a message: `o` toggles the order, other keys scroll, and spinner ticks turn the
spinner while loading. -/
def update (q : QuotaTab) (b : Board) : Msg → QuotaTab × Option Cmd
  | .key k =>
    if toggleOrder.matches k then ({ q with priority := !q.priority }, none)
    else ({ q with viewport := q.viewport.update k }, none)
  | .spin t =>
    if b.loading then
      match q.spinner.take t with
      | some (s, next) => ({ q with spinner := s }, some (.later (.spin next)))
      | none => (q, none)
    else (q, none)
  | _ => (q, none)

/-- Gives the tab its size. -/
def setSize (q : QuotaTab) (w h : Int) : QuotaTab :=
  { q with width := w, height := h, viewport := { q.viewport with width := max (w - 6) 0, height := max (h - 2) 0 } }

/-- The tab's keys. -/
def shortHelp : List Binding := [toggleOrder, scrollUp, scrollDown]

/-- The title block. -/
def title (p : Profile) : String :=
  joinVertical .start [Style.render p Theme.title "Codex HUD",
    Style.render p Theme.help "Weekly and 5-hour quota across your accounts", ""]

/-- The recommendation line, followed by an empty line. -/
def recommendation (p : Profile) (d : Decision) : String :=
  let icon := Style.render p (Theme.inColor Theme.secondary) "➜"
  let st := if d.reason = .allDepleted then Theme.errorText else Theme.infoText
  icon ++ " " ++ Style.render p st d.summary ++ "\n"

/-- The bar of one window of an account. -/
def windowBar (t : Thresholds) (a : Account) (k : WindowKind) : WindowBar :=
  match a.remaining k, a.lastSnapshot with
  | some r, some s =>
    let w := s.window k
    { kind := k, known := true, remaining := r, level := t.level r, resetsAt := w.resetsAt,
      assumedReset := w.assumedReset }
  | _, _ => { kind := k }

/-- When an account was last seen, relative to `now`. -/
def lastSeen (a : Account) (now : Instant) : String :=
  match a.lastUpdated with
  | none => "never seen"
  | some t =>
    let ago := now.sub t
    if ago.toInt < Duration.minute.toInt then "seen just now"
    else "seen " ++ formatUntil ago ++ " ago"

/-- The card of an account. -/
def card (p : Profile) (t : Thresholds) (a : Account) (r : RefreshResult) (recommended : String)
    (width : Int) (now : Instant) : String :=
  let active := a.email = r.activeEmail
  let header := Style.render p Theme.cardTitle a.label ++ "  " ++ Style.render p Theme.help a.email ++
    (if active then " " ++ Style.render p Theme.activeBadge "ACTIVE" else "") ++
    (if a.email = recommended && !active then " " ++ Style.render p Theme.recommendedBadge "NEXT"
      else "") ++
    (if (t.status a).kind = .depleted then " " ++ Style.render p Theme.depletedBadge "DEPLETED"
      else "")
  let bars := [WindowKind.weekly, WindowKind.fiveHour].map fun k => (windowBar t a k).view p (width - 10) now
  let body := [header, ""] ++ bars ++ ["", Style.render p Theme.help (lastSeen a now)]
  let st := if active then Theme.activeCard
    else if a.email = recommended then Theme.recommendedCard else Theme.card
  Style.render p { st with width := width.toNat } (joinVertical .start body)

/-- The cards of every account, or the card that says how to add them. -/
def cards (p : Profile) (q : QuotaTab) (b : Board) (r : RefreshResult) : List String :=
  let cardWidth := max (q.width - 8) 40
  match b.accounts with
  | [] =>
    let empty := joinVertical .start [Style.render p Theme.help "No accounts configured", "",
      Style.render p Theme.infoText "╰─▶ codexhud accounts import accounts.yaml"]
    [Style.render p { Theme.card with width := cardWidth.toNat } empty]
  | accs =>
    let accs := if q.priority then q.thresholds.prioritize accs r.activeEmail else accs
    let recommended := (r.recommendation.recommended.map (·.email)).getD ""
    accs.map fun a => card p q.thresholds a r recommended cardWidth b.clock

/-- Draws the tab; the viewport keeps what it showed, for scrolling. -/
def view (p : Profile) (q : QuotaTab) (b : Board) : String × QuotaTab :=
  match b.latest with
  | none => (q.spinner.centered p q.width.toNat q.height.toNat, q)
  | some r =>
    let warning := if r.warnings.isEmpty then []
      else [Style.render p Theme.warningText ("! " ++ "\n".intercalate r.warnings), ""]
    let sections := [title p, recommendation p r.recommendation] ++ warning ++ cards p q b r
    let v := q.viewport.setContent (joinVertical .start sections)
    (Style.render p { Theme.doc with width := q.width.toNat, height := q.height.toNat } (v.view p),
      { q with viewport := v })

end QuotaTab

end QuotaWatch.Hud
