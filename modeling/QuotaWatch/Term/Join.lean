import QuotaWatch.Term.Style
/-!
**Joining and placing blocks.**

Blocks are joined side by side or one above the other, and placed inside a larger area. The
shorter or narrower blocks are padded with spaces; a middle position rounds its half of an odd
gap as these functions always have: joins put the odd cell on the left (one above the other)
or the odd line on top (side by side), while placing puts it on the right or at the bottom.
-/

namespace QuotaWatch.Term

/-- Blocks one above the other, each line padded to the widest line. -/
def joinVertical (a : Align) : List String → String
  | [] => ""
  | [s] => s
  | blocks =>
    let widest := (blocks.map blockWidth).foldl max 0
    let rows := blocks.flatMap fun b => (lines b).map fun l =>
      let w := widest - width l
      match a with
      | .start => l ++ spaces w
      | .stop => spaces w ++ l
      | .center =>
        if w < 1 then l
        else
          let split := (w + 1) / 2
          spaces split ++ l ++ spaces (w - split)
    "\n".intercalate rows

/-- Blocks side by side: shorter blocks get empty lines, and every line of a block is padded to
the block's widest line. -/
def joinHorizontal (a : Align) : List String → String
  | [] => ""
  | [s] => s
  | blocks =>
    let tallest := (blocks.map blockHeight).foldl max 0
    let columns := blocks.map fun b =>
      let ls := lines b
      let n := tallest - ls.length
      let extra := fun (k : Nat) => List.replicate k ""
      let ls := match a with
        | .start => ls ++ extra n
        | .stop => extra n ++ ls
        | .center => extra ((n + 1) / 2) ++ ls ++ extra (n / 2)
      let w := blockWidth b
      ls.map fun l => l ++ spaces (w - width l)
    let rows := (List.range tallest).map fun i =>
      String.join (columns.map fun c => c.getD i "")
    "\n".intercalate rows

/-- A block placed in an area `width` cells wide; a block as wide or wider is unchanged. -/
def placeHorizontal (width : Nat) (a : Align) (s : String) : String :=
  let widest := blockWidth s
  if width ≤ widest then s
  else
    let gap := width - widest
    "\n".intercalate ((lines s).map fun l =>
      let total := gap + (widest - Term.width l)
      match a with
      | .start => l ++ spaces total
      | .stop => spaces total ++ l
      | .center =>
        let left := total - (total + 1) / 2
        spaces left ++ l ++ spaces (total - left))

/-- A block placed in an area `height` lines high; a block as high or higher is unchanged. -/
def placeVertical (height : Nat) (a : Align) (s : String) : String :=
  let h := blockHeight s
  if height ≤ h then s
  else
    let gap := height - h
    let empty := spaces (blockWidth s)
    match a with
    | .start => s ++ String.join (List.replicate gap ("\n" ++ empty))
    | .stop => String.join (List.replicate gap (empty ++ "\n")) ++ s
    | .center =>
      let top := gap - (gap + 1) / 2
      String.join (List.replicate top (empty ++ "\n")) ++ s ++
        String.join (List.replicate (gap - top) ("\n" ++ empty))

/-- A block placed in an area of `width` by `height`. -/
def place (width height : Nat) (h v : Align) (s : String) : String :=
  placeVertical height v (placeHorizontal width h s)

end QuotaWatch.Term
