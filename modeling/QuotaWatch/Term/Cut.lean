import QuotaWatch.Term.Width
/-!
**Cutting terminal text to a number of cells.**

A line is cut by cells: a cluster crossing the limit is left out whole, and escape sequences and
controls are always kept so attributes still open and close. `truncate s n tail` keeps the first
`n` cells, the tail included, and leaves a fitting line alone; `truncateLeft s n prefix` drops the
first `n` cells, keeping a wide cluster that straddles them; `cut s left right` keeps the cells
from `left` up to `right`.
-/

namespace QuotaWatch.Term

/-- Whether a cluster is a single ASCII character, which is measured one character at a time. -/
def Token.isAscii : Token → Bool
  | .glyph [c] _ => c.toNat < 0x80
  | _ => false

/-- The state of a cut from the right: the text kept, the cells it takes, and whether the limit
was reached (after which only escape sequences are kept). -/
structure Keeper where
  out : List Char := []
  cells : Nat := 0
  full : Bool := false

/-- Marks the limit reached, writing the tail, unless that was done already. -/
def Keeper.close (k : Keeper) (tail : List Char) : Keeper :=
  if k.full then k else { k with out := k.out ++ tail, full := true }

/-- One token of a cut from the right that keeps `limit` cells. -/
def Keeper.step (limit : Nat) (tail : List Char) (k : Keeper) (t : Token) : Keeper :=
  match t with
  | .glyph cs w =>
    if t.isAscii then
      let k := if k.cells ≥ limit then k.close tail else k
      if k.full then k
      else
        let k := { k with out := k.out ++ cs, cells := k.cells + 1 }
        if k.cells ≥ limit then k.close tail else k
    else if k.full then k
    else if k.cells + w > limit then k.close tail
    else { k with out := k.out ++ cs, cells := k.cells + w }
  | _ =>
    match t.text with
    | [] => k
    | c :: rest =>
      let k := { k with out := k.out ++ [c] }
      let k := if k.cells ≥ limit then k.close tail else k
      { k with out := k.out ++ rest }

/-- The first `n` cells of a line, `tail` included. -/
def truncate (s : String) (n : Int) (tail : String) : String :=
  if (width s : Int) ≤ n then s
  else
    let limit := n - width tail
    if limit < 0 then ""
    else
      let k := (tokenize s.toList).foldl (Keeper.step limit.toNat tail.toList) {}
      String.ofList k.out

/-- The state of a cut from the left: the text kept, the cells passed, and whether the cut is
behind. -/
structure Dropper where
  out : List Char := []
  cells : Nat := 0
  past : Bool := false

/-- One token of a cut that drops the first `n` cells. -/
def Dropper.step (n : Nat) (pre : List Char) (d : Dropper) (t : Token) : Dropper :=
  if d.past then { d with out := d.out ++ t.text }
  else
    match t with
    | .glyph cs w =>
      let cells := d.cells + w
      if cells > n then ⟨d.out ++ pre ++ cs, cells, true⟩ else { d with cells }
    | _ => { d with out := d.out ++ t.text }

/-- A line without its first `n` cells, `pre` written where the kept text starts. -/
def truncateLeft (s : String) (n : Int) (pre : String) : String :=
  if n ≤ 0 then s
  else String.ofList ((tokenize s.toList).foldl (Dropper.step n.toNat pre.toList) {}).out

/-- The cells of a line from `left` up to, but not including, `right`. -/
def cut (s : String) (left right : Int) : String :=
  if right ≤ left then ""
  else if left = 0 then truncate s right ""
  else truncateLeft (truncate s right "") left ""

end QuotaWatch.Term
