import QuotaWatch.Time.Duration
import QuotaWatch.Quota.Percent
/-!
**Compact readings: time left, sparklines and remaining series.**

Time to a reset reads `3d 04h`, `2h 05m` or `12m` after rounding to the minute, or `now`. A
sparkline draws one of eight block heights per percentage, sampling when there are more values
than cells; a value that is not a number draws the lowest block. The remaining series turns used
percentages, newest first, into remaining ones, oldest first.
-/

namespace QuotaWatch

/-- A number written with at least two digits. -/
def twoDigits (n : Int) : String :=
  if 0 ≤ n ∧ n < 10 then "0" ++ toString n else toString n

/-- The time until an instant as `3d 04h`, `2h 05m` or `12m`, rounded to the minute; `now` when
it is not positive. -/
def formatUntil (d : Duration) : String :=
  if d.toInt ≤ 0 then "now"
  else
    let v := (d.round Duration.minute).toInt
    let day : Int := 24 * Duration.hour.toInt
    let days := v / day
    let hours := v % day / Duration.hour.toInt
    let minutes := v % Duration.hour.toInt / Duration.minute.toInt
    if days > 0 then toString days ++ "d " ++ twoDigits hours ++ "h"
    else if hours > 0 then toString hours ++ "h " ++ twoDigits minutes ++ "m"
    else toString minutes ++ "m"

/-- The eight block heights of a sparkline, lowest first. -/
def sparkBlocks : List Char := ['▁', '▂', '▃', '▄', '▅', '▆', '▇', '█']

/-- The block for a percentage. -/
def sparkBlock (v : Float) : Char :=
  let idx := Decimal.truncInt64 (v / 100 * 7)
  sparkBlocks.getD (max 0 (min idx 7)).toNat '▁'

/-- A sparkline of at most `width` cells; empty for no values or a width that is not
positive. -/
def sparkline (values : List Float) (width : Int) : String :=
  if values.isEmpty || width ≤ 0 then ""
  else
    let n := values.length
    let ratio := n.toFloat / (Float.ofInt width)
    let step := if ratio < 1 then 1 else ratio
    let cells := (List.range (min width.toNat n)).filterMap fun i =>
      let k := Decimal.truncInt64 (i.toFloat * step)
      if k < n then values[k.toNat]?.map sparkBlock else none
    String.ofList cells

/-- The remaining percentage of a used one, zero when that is not defined. -/
def remainingOf (used : Float) : Float :=
  match Percent.remainingFromUsed used with
  | some p => p.value
  | none => 0

/-- Remaining percentages, oldest first, from used ones, newest first. -/
def remainingSeries (used : List Float) : List Float := (used.map remainingOf).reverse

end QuotaWatch
