import QuotaWatch.Term.Style
/-!
**Spinners.**

A spinner cycles through frames, one per tick. Every spinner has its own number, and a tick is
addressed to one spinner and carries the spinner's tick count when it was scheduled; a spinner
takes only ticks addressed to it (or to none) whose count is its own (or none), so that a
spinner scheduled twice does not turn twice as fast. Taking a tick shows the next frame and
schedules the next tick.
-/

namespace QuotaWatch.Screen

open Term

/-- The frames of a spinner. -/
abbrev Frames := List String

/-- Eight dots turning in a braille cell, each frame followed by a space. -/
def Frames.dot : Frames := ["⣾ ", "⣽ ", "⣻ ", "⢿ ", "⡿ ", "⣟ ", "⣯ ", "⣷ "]

/-- A small dot running around a braille cell. -/
def Frames.miniDot : Frames := ["⠋", "⠙", "⠹", "⠸", "⠼", "⠴", "⠦", "⠧", "⠇", "⠏"]

/-- A tick for the spinner numbered `id` (zero: any), scheduled at its count `count` (zero:
any). -/
structure SpinnerTick where
  id : Nat
  count : Nat
  deriving Inhabited, DecidableEq, Repr

/-- A spinner: its frames, its colour, its number, the frame shown and the ticks taken. -/
structure Spinner where
  frames : Frames
  color : Color
  id : Nat
  frame : Nat := 0
  count : Nat := 0
  deriving Inhabited, Repr

namespace Spinner

/-- The tick that starts the spinner. -/
def tick (s : Spinner) : SpinnerTick := ⟨s.id, s.count⟩

/-- Takes a tick: `some` the spinner on its next frame and the tick it schedules, or `none`
when the tick is for another spinner or an older count. -/
def take (s : Spinner) (t : SpinnerTick) : Option (Spinner × SpinnerTick) :=
  if (t.id > 0 && t.id ≠ s.id) || (t.count > 0 && t.count ≠ s.count) then none
  else
    let frame := if s.frame + 1 ≥ s.frames.length then 0 else s.frame + 1
    let s := { s with frame, count := s.count + 1 }
    some (s, ⟨s.id, s.count⟩)

/-- The frame shown, in the spinner's colour. -/
def view (p : Profile) (s : Spinner) : String :=
  match s.frames[s.frame]? with
  | some f => Style.render p { fg := some s.color } f
  | none => "(error)"

end Spinner

end QuotaWatch.Screen
