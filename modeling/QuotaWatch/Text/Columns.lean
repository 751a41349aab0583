/-!
**Aligning tab-separated cells into columns.**

Each line is cut into cells at its tabs; the text after the last tab is written as it is. Column
`j` is aligned over each block of consecutive lines that have a `j`-th cell followed by a tab: its
cells are left-aligned and padded to the widest in the block plus the padding. A line with fewer
cells ends the blocks of the columns it lacks.
-/

namespace QuotaWatch.Columns

/-- The cells of a line, cut at tabs; the last one is the trailing text. -/
def cells (line : String) : List String := line.splitOn "\t"

/-- The maximal runs of consecutive rows, each marked with whether its rows have an aligned
cell in column `j`. -/
def runs (j : Nat) : List (List String) → List (Bool × List (List String))
  | [] => []
  | r :: rest =>
    let has := fun (r : List String) => decide (j + 1 < r.length)
    let same := rest.takeWhile fun r2 => has r2 == has r
    (has r, r :: same) :: runs j (rest.drop same.length)
termination_by rows => rows.length
decreasing_by simp only [List.length_drop, List.length_cons]; omega

/-- For every row, the width of column `j` in its block, padding included; zero for a row
without an aligned cell there. -/
def widthsOf (pad j : Nat) (rows : List (List String)) : List Nat :=
  (runs j rows).flatMap fun (has, block) =>
    let w := if has then pad + (block.map fun r => (r.getD j "").length).foldl max 0 else 0
    block.map fun _ => w

/-- A row written with the widths of its aligned cells. -/
def writeRow (row : List String) (widths : List Nat) : String :=
  let n := row.length - 1
  String.join ((row.zipIdx.map fun (c, j) =>
    if j < n then c ++ String.ofList (List.replicate (widths.getD j 0 - c.length) (Char.ofNat 32)) else c))

/-- Aligns the cells of a text into columns, with `pad` spaces at least after each cell. -/
def align (pad : Nat) (text : String) : String :=
  let rows := (text.splitOn "\n").map cells
  let most := (rows.map List.length).foldl max 0
  let table := (List.range most).map fun j => widthsOf pad j rows
  let perRow := (List.range rows.length).map fun i => table.map fun col => col.getD i 0
  "\n".intercalate ((rows.zip perRow).map fun (r, ws) => writeRow r ws)

end QuotaWatch.Columns
