import QuotaWatch.Hud.Message
import QuotaWatch.Screen.Viewport
import QuotaWatch.View.Bars
import QuotaWatch.Config.Settings
import QuotaWatch.Build.Info
/-!
**The information tab: settings, automation and the build.**

Three cards, each between fifty and ninety cells wide: the settings in use (paths, watching,
refresh interval, thresholds, the model of the daily hello), the automation bookkeeping of each
account (the last daily hello with the day's count, and the outcome of the last forced
refresh), and the build with the number of accounts and the time of the last refresh. Times
are shown as `Jan 02 15:04` in UTC.
-/

namespace QuotaWatch.Hud

open Term Screen

/-- What the program tells about its build: the resolved build information, the toolchain and
the platform. -/
structure About where
  build : BuildInfo
  toolchain : String
  platform : String
  deriving Inhabited

/-- The information tab. -/
structure InfoTab where
  settings : Option Settings
  about : About
  viewport : Viewport := {}
  width : Int := 0
  height : Int := 0
  deriving Inhabited

namespace InfoTab

/-- Scrolling up. -/
def scrollUp : Binding := ⟨["up", "k"], "↑/k", "up"⟩
/-- Scrolling down. -/
def scrollDown : Binding := ⟨["down", "j"], "↓/j", "down"⟩

/-- Reacts to a message: keys scroll. -/
def update (t : InfoTab) : Msg → InfoTab
  | .key k => { t with viewport := t.viewport.update k }
  | _ => t

/-- Gives the tab its size. -/
def setSize (t : InfoTab) (w h : Int) : InfoTab :=
  { t with width := w, height := h, viewport := { t.viewport with width := max (w - 6) 0, height := max (h - 2) 0 } }

/-- The tab's keys. -/
def shortHelp : List Binding := [scrollUp, scrollDown]

/-- An instant as `Jan 02 15:04` in UTC. -/
def shortTime (t : Instant) : String :=
  t.utc.stamp [.monthAbbr, .lit " ", .day, .lit " ", .hour, .lit ":", .minute]

/-- A labelled row. -/
def row (p : Profile) (label value : String) : String :=
  Style.render p { width := 18, fg := some Theme.textMuted } (label ++ ":") ++ " " ++
    Style.render p (Theme.inColor Theme.textPrimary) value

/-- The width of the cards. -/
def cardWidth (t : InfoTab) : Nat := (min (max (t.width - 6) 50) 90).toNat

/-- A card of rows under a title. -/
def card (p : Profile) (t : InfoTab) (heading : String) (rows : List String) : String :=
  Style.render p { Theme.card with width := t.cardWidth }
    (joinVertical .start ([Style.render p Theme.cardTitle heading, ""] ++ rows))

/-- The settings card. -/
def settingsCard (p : Profile) (t : InfoTab) : String :=
  card p t "Configuration" <| match t.settings with
    | some c =>
      [row p "Codex Home" c.codexHome, row p "Sessions" c.sessionsDir, row p "Auth File" c.authPath,
        row p "State File" c.statePath, row p "Database" c.databasePath,
        row p "Watch Mode" (c.watchMode ++ " (debounce " ++ c.watchDebounce.text ++ ")"),
        row p "Refresh" ("every " ++ c.refreshInterval.text),
        row p "Thresholds" ("critical " ++ c.critical.text ++ ", warning " ++ c.warning.text),
        row p "Hello Model" c.helloModel]
    | none => [Style.render p Theme.help "Configuration not loaded"]

/-- The outcome of the last forced refresh. -/
def forcedSummary (p : Profile) (r : ForcedRefreshRecord) : String :=
  match r.lastSuccess, r.lastFailure, r.lastAttempt with
  | some s, f, _ =>
    if (f.map (·.after s)).getD false then Style.render p Theme.errorText ("failed " ++ shortTime (f.getD s))
    else "ok " ++ shortTime s
  | none, some f, _ => Style.render p Theme.errorText ("failed " ++ shortTime f)
  | none, none, some a => "attempted " ++ shortTime a
  | none, none, none => "never"

/-- The automation card. -/
def automationCard (p : Profile) (t : InfoTab) (b : Board) : String :=
  card p t "Automation" <| match b.latest.bind (·.state) with
    | some st =>
      if st.accounts.isEmpty then [Style.render p Theme.help "No automation has run yet."]
      else st.accounts.flatMap fun a =>
        let hello := match st.dailyHello.get? a.email with
          | some r => match r.lastRun with
            | some t => shortTime t ++ " (" ++ toString r.runCount ++ " today)"
            | none => "never"
          | none => "never"
        let forced := match st.forcedRefresh.get? a.email with
          | some r => forcedSummary p r
          | none => "never"
        [Style.render p Theme.infoText a.label ++ "  " ++ Style.render p Theme.help a.email,
          row p "  Daily hello" hello, row p "  Forced refresh" forced]
    | none => [Style.render p Theme.help "No automation has run yet."]

/-- The build card. -/
def aboutCard (p : Profile) (t : InfoTab) (b : Board) : String :=
  let last := match b.latest with
    | some r => if r.at_.isZero then "never" else shortTime r.at_
    | none => "never"
  let a := t.about
  card p t ("About " ++ programName)
    [row p "Version" a.build.version, row p "Build Date" a.build.date,
      row p "Git Commit" a.build.commit, row p "Go Version" a.toolchain,
      row p "Platform" a.platform, "",
      "Accounts: " ++ Style.render p Theme.infoText (toString b.accounts.length),
      "Last refresh: " ++ Style.render p Theme.infoText last]

/-- Draws the tab; the viewport keeps what it showed, for scrolling. -/
def view (p : Profile) (t : InfoTab) (b : Board) : String × InfoTab :=
  let titleBlock := joinVertical .start [Style.render p Theme.title "Info",
    Style.render p Theme.help "Configuration, automation and build information", ""]
  let v := t.viewport.setContent (joinVertical .start
    [titleBlock, settingsCard p t, automationCard p t b, aboutCard p t b])
  (Style.render p { Theme.doc with width := t.width.toNat, height := t.height.toNat } (v.view p),
    { t with viewport := v })

end InfoTab

end QuotaWatch.Hud
