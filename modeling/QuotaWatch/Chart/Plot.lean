import QuotaWatch.Decimal.Text
/-!
**Line charts drawn with box characters.**

Series are stretched to the chart's width by linear interpolation; the vertical range covers
every value and the bounds, and a value sits on its scaled row rounded half away from zero. Rows
start with a right-aligned label and an axis mark; series draw `─` and the corners `╮ ╰ ╯ ╭`
joined by `│`, gaps `╴` and `╶`, later series over earlier ones, colours between escapes.
Trailing blanks are cut and a caption is centred below.
-/

namespace QuotaWatch.Chart

/-- A colour of the 256-colour palette, with 0 for the terminal's default. -/
abbrev Color := Nat

/-- The escape that selects a colour: a reset for the default, the 8 basic and 8 bright
colours by their own codes, and palette colours otherwise. -/
def Color.escape (c : Color) : String :=
  if c = 0 then "\x1b[0m"
  else if c ≤ 7 then "\x1b[" ++ toString (30 + c) ++ "m"
  else if c ≤ 15 then "\x1b[" ++ toString (82 + c) ++ "m"
  else "\x1b[38;5;" ++ toString (c % 256) ++ "m"

/-- How a chart is drawn. A height of zero is worked out from the range; a width of zero keeps
the series as they are. -/
structure Config where
  height : Nat := 0
  width : Nat := 0
  lowerBound : Option Float := none
  upperBound : Option Float := none
  caption : String := ""
  seriesColors : List Color := []
  offset : Nat := 3
  precision : Nat := 2
  deriving Inhabited

/-- Not a number. -/
def nan : Float := 0.0 / 0.0

/-- Rounding half away from zero; not-a-number stays. -/
def roundAway (x : Float) : Float :=
  if x.isNaN then x
  else if x < 0 then
    let y := -x
    Float.neg (if y - y.floor ≥ 0.5 then y.ceil else y.floor)
  else if x - x.floor ≥ 0.5 then x.ceil else x.floor

/-- A series stretched to `n` points by linear interpolation, keeping its ends. -/
def interpolate (data : List Float) (n : Nat) : List Float :=
  let len := data.length
  let at_ := fun (i : Nat) => data.getD i nan
  let spring := (len - 1 : Nat).toFloat / (n - 1 : Nat).toFloat
  let middle := (List.range (n - 2)).map fun k =>
    let s := (k + 1).toFloat * spring
    let before := s.floor
    let after := s.ceil
    let b := at_ (Decimal.truncInt64 before).toNat
    let a := at_ (Decimal.truncInt64 after).toNat
    b + (a - b) * (s - before)
  at_ 0 :: middle ++ [at_ (len - 1)]

/-- The smallest and largest values, ignoring not-a-number. -/
def extremes (xs : List Float) : Float × Float :=
  xs.foldl (fun (acc : Float × Float) x =>
    (if x < acc.1 then x else acc.1, if x > acc.2 then x else acc.2)) (1.0 / 0.0, -1.0 / 0.0)

/-- A height for a range when none is given. -/
def autoHeight (interval : Float) : Nat :=
  if interval ≥ 1 then (Decimal.truncInt64 interval).toNat
  else
    let scale := Float.pow 10 (Float.log10 interval).floor
    let scaled := interval / scale
    if scaled < 2 then (Decimal.truncInt64 scaled.ceil).toNat
    else (Decimal.truncInt64 scaled.floor).toNat

/-- A cell of the grid: its text and colour. -/
structure Cell where
  text : String := " "
  color : Color := 0
  deriving Inhabited

/-- The grid of a chart. -/
abbrev Grid := Array (Array Cell)

/-- Changes a cell; positions outside the grid are left alone. -/
def Grid.update (g : Grid) (row : Int) (col : Nat) (f : Cell → Cell) : Grid :=
  if row < 0 then g else g.modify row.toNat fun r => r.modify col f

/-- Sets the text of a cell. -/
def Grid.put (g : Grid) (row : Int) (col : Nat) (t : String) : Grid :=
  g.update row col fun c => { c with text := t }

/-- Sets the text and colour of a cell. -/
def Grid.paint (g : Grid) (row : Int) (col : Nat) (t : String) (color : Color) : Grid :=
  g.update row col fun _ => ⟨t, color⟩

/-- A number with `places` decimals, right-aligned in `w` characters. -/
def label (w places : Nat) (x : Float) : String :=
  let t := Decimal.fixedText x places
  String.ofList (List.replicate (w - t.length) ' ') ++ t

/-- The row offset of a value: its scaled value rounded, less the lowest row. -/
def level (ratio : Float) (low : Float) (x : Float) : Int :=
  Decimal.truncInt64 (roundAway (x * ratio) - low)

/-- Draws one series. -/
def drawSeries (cfg : Config) (rows : Int) (ratio min2 : Float) (intmin2 : Int) (color : Color)
    (g : Grid) (series : List Float) : Grid :=
  let off := cfg.offset
  let g := match series.head? with
    | some s0 => if s0.isNaN then g else g.paint (rows - level ratio min2 s0) (off - 1) "┼" 0
    | none => g
  let lowF := Float.ofInt intmin2
  let pairs := (series.zip series.tail).zipIdx
  pairs.foldl (fun g ((d0, d1), x) =>
    let col := x + off
    if d0.isNaN && d1.isNaN then g
    else if d1.isNaN then g.paint (rows - level ratio lowF d0) col "╴" color
    else if d0.isNaN then g.paint (rows - level ratio lowF d1) col "╶" color
    else
      let y0 := level ratio lowF d0
      let y1 := level ratio lowF d1
      let g := if y0 = y1 then g.put (rows - y0) col "─"
        else
          let g := if y0 > y1 then (g.put (rows - y1) col "╰").put (rows - y0) col "╮"
            else (g.put (rows - y1) col "╭").put (rows - y0) col "╯"
          let lo := min y0 y1
          let hi := max y0 y1
          (List.range (hi - lo - 1).toNat).foldl (fun g (k : Nat) => g.put (rows - (lo + 1 + (k : Int))) col "│") g
      let lo := min y0 y1
      let hi := max y0 y1
      (List.range (hi - lo + 1).toNat).foldl
        (fun g (k : Nat) => g.update (rows - (lo + (k : Int))) col fun c => { c with color := color })
        g) g

/-- A row of the grid as text: trailing blanks cut, colours switched where they change. -/
def rowText (row : Array Cell) : String :=
  let cells := row.toList
  let last := ((cells.zipIdx.filter fun (c, _) => c.text ≠ " ").map (·.2)).getLastD 0
  let (out, c) := (cells.take (last + 1)).foldl (fun (acc : String × Color) cell =>
    let (out, c) := acc
    let (out, c) := if cell.color ≠ c then (out ++ Color.escape cell.color, cell.color) else (out, c)
    (out ++ cell.text, c)) ("", 0)
  if c ≠ 0 then out ++ Color.escape 0 else out

/-- A chart of several series. -/
def plotMany (cfg : Config) (data : List (List Float)) : String :=
  let lenMax0 := (data.map List.length).foldl max 0
  let (data, lenMax) := if cfg.width > 0 then
      (data.map fun s => interpolate (s ++ List.replicate (lenMax0 - s.length) nan) cfg.width,
        cfg.width)
    else (data, lenMax0)
  let (lo, hi) := extremes data.flatten
  let minimum := match cfg.lowerBound with
    | some b => if b < lo then b else lo
    | none => lo
  let maximum := match cfg.upperBound with
    | some b => if b > hi then b else hi
    | none => hi
  let interval := (maximum - minimum).abs
  let height := if cfg.height = 0 then autoHeight interval else cfg.height
  let off := if cfg.offset = 0 then 3 else cfg.offset
  let cfg := { cfg with offset := off }
  let ratio := if interval ≠ 0 then height.toFloat / interval else 1
  let min2 := roundAway (minimum * ratio)
  let max2 := roundAway (maximum * ratio)
  let intmin2 := Decimal.truncInt64 min2
  let intmax2 := Decimal.truncInt64 max2
  let rows : Int := (intmax2 - intmin2).natAbs
  let width := lenMax + off
  let grid : Grid := Array.replicate (rows.toNat + 1) (Array.replicate width {})
  let logMax := if minimum = 0 && maximum = 0 then -1
    else Float.log10 (max maximum.abs minimum.abs)
  let precision :=
    if logMax < 0 then
      let whole := (Decimal.truncInt64 logMax.abs).toNat
      if logMax ≠ logMax.floor then cfg.precision + whole
      else cfg.precision + (Decimal.truncInt64 (logMax.abs - 1)).toNat
    else if logMax > 2 then 0 else cfg.precision
  let maxWidth := max (Decimal.fixedText maximum precision).length
    (Decimal.fixedText minimum precision).length
  let grid := (List.range (rows.toNat + 1)).foldl (fun g (w : Nat) =>
    let y := intmin2 + (w : Int)
    let magnitude := if rows > 0 then maximum - (Float.ofInt (y - intmin2)) * interval / Float.ofInt rows
      else Float.ofInt y
    let text := label (maxWidth + 1) precision magnitude
    let h := off - text.length
    (g.paint w h text 0).paint w (off - 1) "┤" 0) grid
  let grid := (data.zipIdx).foldl (fun g (series, i) =>
    drawSeries cfg rows ratio min2 intmin2 (cfg.seriesColors.getD i 0) g series) grid
  let body := "\n".intercalate (grid.toList.map rowText)
  if cfg.caption = "" then body
  else
    let captionLen := cfg.caption.utf8ByteSize
    let centre := if captionLen < lenMax then (lenMax - captionLen) / 2 else 0
    body ++ "\n" ++ String.ofList (List.replicate (off + maxWidth + centre) ' ') ++ cfg.caption

/-- A chart of one series. -/
def plot (cfg : Config) (series : List Float) : String := plotMany cfg [series]

end QuotaWatch.Chart
