import QuotaWatch.Inspect.Read
import QuotaWatch.View.Bars
/-!
**Drawing a view from its inspection form.**

A request names the kind of view (`window_bar`, `gradient_bar`, `loading_bar`, `line_chart`,
`window_chart`, `legend`, `spinner`, `center`, `center_h`, `level_style`, `window_color`), the
width and height it is drawn in, whether colours are on, and the view's own values. The answer
is the drawn text; a colour is written as its palette number or as `rgb r g b`.
-/

namespace QuotaWatch

open Json Term

/-- A colour as text: its palette number, or its three channels. -/
def colorText : Color → String
  | .palette n => toString n
  | .rgb r g b => "rgb " ++ toString r ++ " " ++ toString g ++ " " ++ toString b

/-- The text of the view a request describes. -/
def renderJson (j : Json) : Except String String := do
  let p := if (← j.boolAt "color") then Profile.trueColor else .plain
  let w ← j.intAt "width" 0
  let h ← j.intAt "height" 0
  let txt := fun (k : String) => j.strAt k ""
  match ← txt "kind" with
  | "window_bar" =>
    let b := j.objAt "bar"
    let bar : WindowBar := ⟨← b.instantAt "resetsAt", .ofName (← b.strAt "kind" ""),
      ⟨← b.floatAt "remaining" 0⟩, ⟨← b.intAt "level" 0⟩, ← b.boolAt "known", ← b.boolAt "assumedReset"⟩
    return bar.view p w (← j.instantAt "now")
  | "gradient_bar" => return gradientBar p (← j.floatAt "percent" 0) w
  | "loading_bar" => return loadingBar p (.ofName (← txt "window")) w (← j.intAt "frame" 0)
  | "line_chart" => return lineChart p (← j.floatsAt "data") w h (← txt "caption")
  | "window_chart" => return windowChart p (← j.floatsAt "fiveHour") (← j.floatsAt "weekly") w h (← txt "caption")
  | "legend" => return windowLegend p
  | "spinner" =>
    let sp := LoadingSpinner.make 0 (← txt "label") (← txt "hint")
    return if ← j.boolAt "centered" then sp.centered p w.toNat h.toNat else sp.view p
  | "center" => return Theme.centerBoth p (← txt "content") w.toNat h.toNat
  | "center_h" => return Theme.centerHorizontal p (← txt "content") w.toNat
  | "level_style" => return Style.render p (Theme.levelStyle ⟨← j.intAt "level" 0⟩) (← txt "content")
  | "window_color" => return colorText (Theme.windowColor (.ofName (← txt "window")))
  | k => throw ("unknown render kind " ++ Text.quoted k)

end QuotaWatch
