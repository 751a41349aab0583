import QuotaWatch.Term.Wrap
import QuotaWatch.Term.Cut
import QuotaWatch.Decimal.Binary
/-!
**Styled blocks of terminal text.**

A style sets attributes, colours, width and height, alignment, padding, margins and a border.
Rendering turns tabs into four spaces, wraps to the width less padding, draws each line, adds
padding and pads to the height and width with alignment, draws the border and margins, then cuts
to the maximum width and height. An empty style leaves the text as it is apart from tabs.
Escapes are written only under the true-colour profile.
-/

namespace QuotaWatch.Term

/-- A terminal colour: an entry of the 256-colour palette, or red, green and blue. -/
inductive Color where
  | palette (n : Nat)
  | rgb (r g b : Nat)
  deriving Inhabited, DecidableEq, Repr

/-- How text reaches the terminal: plain, or with 24-bit colour escapes. -/
inductive Profile where
  | plain
  | trueColor
  deriving Inhabited, DecidableEq, Repr

namespace Color

/-- A colour channel after the round trip through a unit fraction: `v · (1/255) · 255`, cut to a
whole number, which loses one for some values. -/
def channel (v : Nat) : Nat :=
  (Decimal.truncInt64 (v.toFloat * (1.0 / 255.0) * 255.0)).toNat % 256

/-- The parameters that select this colour, for the foreground or the background. -/
def code (bg : Bool) : Color → String
  | .palette n =>
    if n < 8 then toString ((if bg then 40 else 30) + n)
    else if n < 16 then toString ((if bg then 100 else 90) + (n - 8))
    else (if bg then "48;5;" else "38;5;") ++ toString n
  | .rgb r g b =>
    (if bg then "48;2;" else "38;2;") ++ toString (channel r) ++ ";" ++ toString (channel g) ++
      ";" ++ toString (channel b)

end Color

/-- Text drawn with the given parameters: `ESC [ codes m text ESC [ 0 m` under the true-colour
profile when there are any, the text itself otherwise. -/
def styled (p : Profile) (codes : List String) (s : String) : String :=
  match p, codes with
  | .trueColor, _ :: _ => "\x1b[" ++ ";".intercalate codes ++ "m" ++ s ++ "\x1b[0m"
  | _, _ => s

/-- A position along one axis: start, middle or end. -/
inductive Align where
  | start
  | center
  | stop
  deriving Inhabited, DecidableEq, Repr

/-- Amounts on the four sides, in the order top, right, bottom, left. -/
structure Sides where
  top : Nat := 0
  right : Nat := 0
  bottom : Nat := 0
  left : Nat := 0
  deriving Inhabited, DecidableEq, Repr

/-- The characters of a border. -/
structure Border where
  top : String
  bottom : String
  left : String
  right : String
  topLeft : String
  topRight : String
  bottomLeft : String
  bottomRight : String
  deriving Inhabited, DecidableEq, Repr

namespace Border

/-- A border of thin lines with rounded corners. -/
def rounded : Border := ⟨"─", "─", "│", "│", "╭", "╮", "╰", "╯"⟩

/-- A border of thin lines. -/
def normal : Border := ⟨"─", "─", "│", "│", "┌", "┐", "└", "┘"⟩

/-- A border of double lines. -/
def double : Border := ⟨"═", "═", "║", "║", "╔", "╗", "╚", "╝"⟩

end Border

/-- Which sides of a border are drawn. -/
structure BorderSides where
  top : Bool := false
  right : Bool := false
  bottom : Bool := false
  left : Bool := false
  deriving Inhabited, DecidableEq, Repr

/-- How a block is drawn. A width or height of zero is not set. A border without chosen sides
is drawn on all four. -/
structure Style where
  bold : Bool := false
  italic : Bool := false
  fg : Option Color := none
  bg : Option Color := none
  width : Nat := 0
  height : Nat := 0
  align : Align := .start
  alignV : Align := .start
  padding : Sides := {}
  margin : Sides := {}
  border : Option Border := none
  borderSides : Option BorderSides := none
  borderFg : Option Color := none
  maxWidth : Nat := 0
  maxHeight : Nat := 0
  deriving Inhabited, DecidableEq, Repr

/-- Tabs as four spaces. -/
def convertTabs (s : String) : String := s.replace "\t" "    "

/-- `n` spaces drawn with the given parameters. -/
def fill (p : Profile) (codes : List String) (n : Nat) : String := styled p codes (spaces n)

/-- Pads every line on the left. -/
def padLeft (p : Profile) (codes : List String) (n : Nat) (s : String) : String :=
  if n = 0 then s else "\n".intercalate ((lines s).map (fill p codes n ++ ·))

/-- Pads every line on the right. -/
def padRight (p : Profile) (codes : List String) (n : Nat) (s : String) : String :=
  if n = 0 then s else "\n".intercalate ((lines s).map (· ++ fill p codes n))

/-- Pads a block to `height` lines, placing it at the start, middle or end. -/
def alignVertical (a : Align) (height : Nat) (s : String) : String :=
  let h := blockHeight s
  if height < h then s
  else
    let gap := height - h
    let breaks := fun (n : Nat) => String.ofList (List.replicate n '\n')
    match a with
    | .start => s ++ breaks gap
    | .stop => breaks gap ++ s
    | .center =>
      let half := gap / 2
      let (top, bottom) := if h + half + half < height then (half, half + 1) else (half, half)
      breaks top ++ s ++ breaks bottom

/-- Pads every line to `width` cells, or to the widest line when that is wider, placing the text
at the start, middle or end; a middle position leaves the odd cell on the right. -/
def alignHorizontal (p : Profile) (codes : List String) (a : Align) (width : Nat) (s : String) :
    String :=
  let ls := lines s
  let widest := blockWidth s
  "\n".intercalate (ls.map fun l =>
    let w := Term.width l
    let short := widest - w + (width - widest)
    if short = 0 then l
    else match a with
      | .start => l ++ fill p codes short
      | .stop => fill p codes short ++ l
      | .center => fill p codes (short / 2) ++ l ++ fill p codes (short - short / 2))

/-- The middle of a border edge: characters of `cs` in turn, starting at the `j`-th, while the
cells counted from `i` stay below `limit`; each step counts the width of the character that
comes next. -/
def edgeRun (cs : List Char) : Nat → Nat → Nat → Nat → List Char
  | 0, _, _, _ => []
  | fuel + 1, j, i, limit =>
    if i < limit then
      let j' := (j + 1) % cs.length
      cs.getD j ' ' :: edgeRun cs fuel j' (i + max 1 (charWidth (cs.getD j' ' '))) limit
    else []

/-- A horizontal edge of a border between two corners, for a block `width` cells wide counted
with the left side. -/
def horizontalEdge (left middle right : String) (width : Nat) : String :=
  let middle := if middle = "" then " " else middle
  let lw := Term.width left
  let rw := Term.width right
  left ++ String.ofList (edgeRun middle.toList (width + rw) 0 (lw + rw) (width + rw)) ++ right

/-- The first character of a text, as a text. -/
def firstChar (s : String) : String := String.ofList (s.toList.take 1)

/-- Draws a border around a block. -/
def applyBorder (p : Profile) (st : Style) (s : String) : String :=
  match st.border with
  | none => s
  | some b =>
    let sides := st.borderSides.getD ⟨true, true, true, true⟩
    if !(sides.top || sides.right || sides.bottom || sides.left) then s
    else
      let ls := lines s
      let widest := blockWidth s
      let left := if b.left = "" then " " else b.left
      let right := if b.right = "" then " " else b.right
      let width := if sides.left then widest + (left.toList.map charWidth).foldl max 0 else widest
      let corner : String → Bool → String := fun c on =>
        if on then firstChar (if c = "" then " " else c) else ""
      let tl := corner b.topLeft (sides.top && sides.left)
      let tr := corner b.topRight (sides.top && sides.right)
      let bl := corner b.bottomLeft (sides.bottom && sides.left)
      let br := corner b.bottomRight (sides.bottom && sides.right)
      let paint : String → String := fun t => match st.borderFg with
        | some c => styled p [c.code false] t
        | none => t
      let lcs := left.toList
      let rcs := right.toList
      let body := (ls.zipIdx).map fun (l, i) =>
        (if sides.left then paint (String.singleton (lcs.getD (i % lcs.length) ' ')) else "") ++ l ++
          (if sides.right then paint (String.singleton (rcs.getD (i % rcs.length) ' ')) else "")
      let top := if sides.top then [paint (horizontalEdge tl b.top tr width)] else []
      let bottom := if sides.bottom then [paint (horizontalEdge bl b.bottom br width)] else []
      "\n".intercalate (top ++ body ++ bottom)

/-- Adds margins: spaces on the left and right of every line, and lines of spaces above and
below. -/
def applyMargins (st : Style) (s : String) : String :=
  let s := padLeft .plain [] st.margin.left s
  let s := padRight .plain [] st.margin.right s
  let w := blockWidth s
  let row := spaces w
  let s := if st.margin.top > 0 then
      String.join (List.replicate st.margin.top (row ++ "\n")) ++ s
    else s
  if st.margin.bottom > 0 then s ++ String.join (List.replicate st.margin.bottom ("\n" ++ row))
  else s

namespace Style

/-- The parameters of the text's attributes and colours. -/
def codes (st : Style) : List String :=
  (if st.bold then ["1"] else []) ++ (if st.italic then ["3"] else []) ++
    (st.fg.map (Color.code false)).toList ++ (st.bg.map (Color.code true)).toList

/-- The parameters of padding and filled space: the background only. -/
def fillCodes (st : Style) : List String := (st.bg.map (Color.code true)).toList

/-- Draws a block under a style. -/
def render (p : Profile) (st : Style) (s : String) : String :=
  if st = {} then convertTabs s
  else
    let s := (convertTabs s).replace "\r\n" "\n"
    let s := if st.width > 0 then
        wrap ((st.width : Int) - st.padding.left - st.padding.right) s
      else s
    let s := "\n".intercalate ((lines s).map (styled p st.codes))
    let s := padLeft p st.fillCodes st.padding.left s
    let s := padRight p st.fillCodes st.padding.right s
    let s := String.ofList (List.replicate st.padding.top '\n') ++ s ++
      String.ofList (List.replicate st.padding.bottom '\n')
    let s := if st.height > 0 then alignVertical st.alignV st.height s else s
    let s := if blockHeight s = 1 && st.width = 0 then s
      else alignHorizontal p st.fillCodes st.align st.width s
    let s := applyMargins st (applyBorder p st s)
    let s := if st.maxWidth > 0 then "\n".intercalate ((lines s).map (truncate · st.maxWidth ""))
      else s
    if st.maxHeight > 0 then "\n".intercalate ((lines s).take st.maxHeight) else s

end Style

end QuotaWatch.Term
