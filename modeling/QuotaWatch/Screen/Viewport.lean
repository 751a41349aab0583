import QuotaWatch.Term.Style
import QuotaWatch.Screen.Key
/-!
**A scrolling window onto a block of text.**

A viewport shows `height` lines from `yOffset` in `width` cells from `xOffset`; its content is
set when drawn, and keys scroll by a line, a page or half a page, and sideways by a step that is
zero unless set. The top line never passes the point where the last line is at the bottom, and a
viewport whose content shrank jumps to the bottom. A drawn viewport is exactly `width` by
`height`: lines padded or cut, missing ones blank.
-/

namespace QuotaWatch.Screen

open Term

/-- A scrolling window: its size, offsets, and the lines it last showed. -/
structure Viewport where
  width : Int := 0
  height : Int := 0
  yOffset : Int := 0
  xOffset : Int := 0
  content : List String := []
  widest : Nat := 0
  /-- Cells moved by a sideways scroll. -/
  sidewaysStep : Int := 0
  deriving Inhabited, Repr

/-- `v` bounded by `lo` and `hi`, the two bounds swapped when they are out of order. -/
def clampBetween (v lo hi : Int) : Int :=
  if hi < lo then min lo (max hi v) else min hi (max lo v)

namespace Viewport

/-- The largest top line: the one that puts the last line at the bottom. -/
def maxYOffset (v : Viewport) : Int := max 0 ((v.content.length : Int) - v.height)

/-- Whether the first line is at the top. -/
def atTop (v : Viewport) : Bool := v.yOffset ≤ 0

/-- Whether the last line is at or above the bottom. -/
def atBottom (v : Viewport) : Bool := v.yOffset ≥ v.maxYOffset

/-- Moves the top line, within bounds. -/
def setYOffset (v : Viewport) (n : Int) : Viewport := { v with yOffset := clampBetween n 0 v.maxYOffset }

/-- Moves the first column, within bounds. -/
def setXOffset (v : Viewport) (n : Int) : Viewport :=
  { v with xOffset := clampBetween n 0 ((v.widest : Int) - v.width) }

/-- Replaces the content; a top line beyond the new content goes to the bottom. -/
def setContent (v : Viewport) (s : String) : Viewport :=
  let ls := lines (s.replace "\r\n" "\n")
  let v := { v with content := ls, widest := (ls.map Term.width).foldl max 0 }
  if v.yOffset > (ls.length : Int) - 1 then v.setYOffset v.maxYOffset else v

/-- Scrolls down `n` lines. -/
def lineDown (v : Viewport) (n : Int) : Viewport :=
  if v.atBottom || n = 0 || v.content.isEmpty then v else v.setYOffset (v.yOffset + n)

/-- Scrolls up `n` lines. -/
def lineUp (v : Viewport) (n : Int) : Viewport :=
  if v.atTop || n = 0 || v.content.isEmpty then v else v.setYOffset (v.yOffset - n)

/-- The lines in view, cut sideways when the widest line does not fit. -/
def visibleLines (v : Viewport) : List String :=
  let top := max 0 v.yOffset
  let bottom := clampBetween (v.yOffset + v.height) top v.content.length
  let ls := (v.content.drop top.toNat).take (bottom - top).toNat
  if (v.xOffset = 0 && (v.widest : Int) ≤ v.width) || v.width = 0 then ls
  else ls.map fun l => cut l v.xOffset (v.xOffset + v.width)

/-- The viewport drawn: exactly its size, padded and cut. -/
def view (p : Profile) (v : Viewport) : String :=
  let w := v.width.toNat
  let h := v.height.toNat
  Style.render p { width := w, height := h, maxWidth := w, maxHeight := h }
    ("\n".intercalate v.visibleLines)

/-- Paging down. -/
def pageDown : Binding := ⟨["pgdown", " ", "f"], "f/pgdn", "page down"⟩
/-- Paging up. -/
def pageUp : Binding := ⟨["pgup", "b"], "b/pgup", "page up"⟩
/-- Half a page up. -/
def halfPageUp : Binding := ⟨["u", "ctrl+u"], "u", "½ page up"⟩
/-- Half a page down. -/
def halfPageDown : Binding := ⟨["d", "ctrl+d"], "d", "½ page down"⟩
/-- One line up. -/
def lineUpKey : Binding := ⟨["up", "k"], "↑/k", "up"⟩
/-- One line down. -/
def lineDownKey : Binding := ⟨["down", "j"], "↓/j", "down"⟩
/-- Sideways to the left. -/
def leftKey : Binding := ⟨["left", "h"], "←/h", "move left"⟩
/-- Sideways to the right. -/
def rightKey : Binding := ⟨["right", "l"], "→/l", "move right"⟩

/-- Scrolls for a key press. -/
def update (v : Viewport) (k : Key) : Viewport :=
  if pageDown.matches k then (if v.atBottom then v else v.lineDown v.height)
  else if pageUp.matches k then (if v.atTop then v else v.lineUp v.height)
  else if halfPageDown.matches k then (if v.atBottom then v else v.lineDown (v.height / 2))
  else if halfPageUp.matches k then (if v.atTop then v else v.lineUp (v.height / 2))
  else if lineDownKey.matches k then v.lineDown 1
  else if lineUpKey.matches k then v.lineUp 1
  else if leftKey.matches k then v.setXOffset (v.xOffset - v.sidewaysStep)
  else if rightKey.matches k then v.setXOffset (v.xOffset + v.sidewaysStep)
  else v

end Viewport

end QuotaWatch.Screen
