import QuotaWatch.View.Theme
import QuotaWatch.View.Spark
import QuotaWatch.Chart.Plot
import QuotaWatch.Screen.Spinner
/-!
**Quota bars, loading bars, charts, the legend and the spinner.**

A window bar reads `label [bar] pct resets in …`: an eight-cell label in the accent colour, a bar
of at least ten cells filled from red to green, and the rounded percentage right-aligned in six
cells; without a measurement it is grey with `--`. A loading bar moves an eased band over 120
frames. Charts plot remaining percentages from 0 to 100, the two-window chart in blue and orange,
padding the shorter series with zeros.
-/

namespace QuotaWatch

open Term

/-- The width of a bar's label. -/
def labelWidth : Nat := 8

/-- The width of a bar's percentage. -/
def percentWidth : Nat := 6

/-- The width set aside for the reset time. -/
def resetWidth : Nat := 16

/-- The cells of the bar itself in a row `width` cells wide: what is left after the label, the
percentage, the reset time and the separators, and at least ten. -/
def barCells (width : Int) : Nat :=
  (max (width - labelWidth - percentWidth - resetWidth - 4) 10).toNat

/-- The colour at fraction `t` of the way from red `#ff6b6b` to green `#51cf66`, each channel
cut to a whole number. -/
def gradientColor (t : Float) : Color :=
  let mix := fun (a b : Nat) =>
    (Decimal.truncInt64 (a.toFloat + t * (b.toFloat - a.toFloat))).toNat % 256
  .rgb (mix 255 81) (mix 107 207) (mix 107 102)

/-- A bar `width` cells wide filled to `percent`: filled cells shade from red to green, the rest
is grey. -/
def gradientBar (p : Profile) (percent : Float) (width : Int) : String :=
  if width < 1 then ""
  else
    let w := width.toNat
    let filled := (max (min (Decimal.truncInt64 (w.toFloat * percent / 100)) w) 0).toNat
    String.join ((List.range w).map fun i =>
      if i < filled then
        let t := i.toFloat / (max 1 (w - 1)).toFloat
        Style.render p (Theme.inColor (gradientColor t)) "█"
      else Style.render p (Theme.inColor Theme.subtle) "░")

/-- The label of a bar: the window's name in its colour, eight cells wide. -/
def barLabel (p : Profile) (k : WindowKind) : String :=
  Style.render p { Theme.progressLabel with fg := some (Theme.windowColor k) } k.label

/-- One usage window of an account as the dashboard shows it. -/
structure WindowBar where
  resetsAt : Instant := Instant.zero
  kind : WindowKind := WindowKind.none
  remaining : Percent := Percent.zero
  level : Level := Level.normal
  known : Bool := false
  assumedReset : Bool := false
  deriving Inhabited

/-- A window bar in a row `width` cells wide at time `now`. -/
def WindowBar.view (p : Profile) (w : WindowBar) (width : Int) (now : Instant) : String :=
  let cells := barCells width
  let label := barLabel p w.kind
  if !w.known then
    let empty := Style.render p (Theme.inColor Theme.subtle)
      (String.join (List.replicate cells "░"))
    let pct := Style.render p { Theme.quotaUnknown with width := percentWidth, align := .stop } "--"
    label ++ " [" ++ empty ++ "] " ++ pct
  else
    let bar := gradientBar p w.remaining.value cells
    let pct := Style.render p { Theme.levelStyle w.level with width := percentWidth, align := .stop }
      w.remaining.text
    let reset := if w.resetsAt.isZero then ""
      else "resets in " ++ formatUntil (w.resetsAt.sub now) ++ (if w.assumedReset then "*" else "")
    label ++ " [" ++ bar ++ "] " ++ pct ++ " " ++ Style.render p Theme.help reset

/-- The length of the loading animation, in frames. -/
def loadingCycle : Int := 120

/-- Where the bright band of the loading bar is at a frame, as a fraction eased in and out. -/
def loadingEase (frame : Int) : Float :=
  let t := Float.ofInt (frame.tmod loadingCycle) / Float.ofInt loadingCycle
  let p := if t ≥ 0.5 then (1 - t) * 2 else t * 2
  p * p * (3 - 2 * p)

/-- A loading bar at a frame: a bright band of the window's colour with dimmer edges, moving
across a dark bar. -/
def loadingBar (p : Profile) (k : WindowKind) (width : Int) (frame : Int) : String :=
  let cells := barCells width
  let accent := Theme.windowColor k
  let pos := Decimal.truncInt64 (loadingEase frame * cells.toFloat)
  let bar := String.join ((List.range cells).map fun (i : Nat) =>
    let dist := (pos - (i : Int)).natAbs
    if dist < 3 then Style.render p (Theme.inColor accent) "▓"
    else if dist < 5 then Style.render p (Theme.inColor Theme.textSecondary) "▒"
    else Style.render p (Theme.inColor Theme.bgLight) "░")
  barLabel p k ++ " [" ++ bar ++ "]"

/-- The muted placeholder for a chart without data. -/
def noData (p : Profile) : String := Style.render p Theme.help "No data available"

/-- A chart of one series of percentages. -/
def lineChart (p : Profile) (data : List Float) (width height : Int) (caption : String) :
    String :=
  if data.isEmpty then noData p
  else
    let cfg : Chart.Config := {
      height := (max height 3).toNat
      width := (max width 20).toNat
      lowerBound := some 0
      upperBound := some 100
      caption := caption }
    Chart.plot cfg data

/-- A chart of the remaining percentages of both windows. -/
def windowChart (p : Profile) (five weekly : List Float) (width height : Int) (caption : String) :
    String :=
  if five.isEmpty && weekly.isEmpty then noData p
  else
    let n := max five.length weekly.length
    let pad := fun (xs : List Float) => xs ++ List.replicate (n - xs.length) 0
    let cfg : Chart.Config := {
      height := (max height 3).toNat
      width := (max width 20).toNat
      lowerBound := some 0
      upperBound := some 100
      caption := caption
      seriesColors := [12, 208] }
    Chart.plotMany cfg [pad five, pad weekly]

/-- The legend of the window chart: a coloured square and the window's name, for each window. -/
def windowLegend (p : Profile) : String :=
  "  ".intercalate ([WindowKind.fiveHour, WindowKind.weekly].map fun k =>
    Style.render p (Theme.inColor (Theme.windowColor k)) "■" ++ " " ++ k.label)

/-- A spinner with a label and an optional hint, shown while nothing has been measured yet. -/
structure LoadingSpinner where
  spinner : Screen.Spinner
  label : String
  hint : String := ""
  deriving Inhabited

namespace LoadingSpinner

/-- A small green spinner numbered `id`. -/
def make (id : Nat) (label hint : String) : LoadingSpinner :=
  ⟨{ frames := Screen.Frames.miniDot, color := Theme.primary, id }, label, hint⟩

/-- Takes a tick of the spinner, when it is its own: the spinner and the tick it schedules. -/
def take (s : LoadingSpinner) (t : Screen.SpinnerTick) : Option (LoadingSpinner × Screen.SpinnerTick) :=
  (s.spinner.take t).map fun (sp, next) => ({ s with spinner := sp }, next)

/-- The spinner, its label, and the hint centred below after an empty line. -/
def view (p : Profile) (s : LoadingSpinner) : String :=
  let line := s.spinner.view p ++ " " ++ Style.render p (Theme.inColor Theme.textSecondary) s.label
  if s.hint = "" then line
  else joinVertical .center [line, "", Style.render p Theme.help s.hint]

/-- The spinner centred in an area. -/
def centered (p : Profile) (s : LoadingSpinner) (width height : Nat) : String :=
  Theme.centerBoth p (s.view p) width height

end LoadingSpinner

end QuotaWatch
