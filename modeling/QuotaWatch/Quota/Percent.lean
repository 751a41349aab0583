import QuotaWatch.Decimal.Text
/-!
**Percentages.**

A percentage is a finite double in `[0, 100]`. Making one from a double refuses, rather than
clamps, a value that is not a number, infinite, or outside the range, and says which. A used
percentage turns into the remaining one by subtracting it from 100.

A percentage reads as its value rounded to a whole number, a half going to the even neighbour,
followed by `%`: `2.5` reads `2%` and `3.5` reads `4%`. The sign of a negative zero is kept
(`-0%`).
-/

namespace QuotaWatch

/-- A finite double between 0 and 100, both included. -/
structure Percent where
  value : Float
  deriving Inhabited

/-- Why a double is not a percentage. -/
inductive PercentError where
  | notFinite (v : Float)
  | outOfRange (v : Float)

/-- A double in message form (`1e+06`, `NaN`, `-0.1`). -/
def Decimal.messageText (x : Float) : String := Decimal.shortestText x .message

/-- The message of a percentage error. -/
def PercentError.message : PercentError → String
  | .notFinite v => "percent " ++ Decimal.messageText v ++ " is not finite"
  | .outOfRange v => "percent " ++ Decimal.messageText v ++ " out of range [0,100]"

namespace Percent

/-- The percentage of value `v`, refused when `v` is not finite or outside `[0, 100]`. -/
def make (v : Float) : Except PercentError Percent :=
  if v.isNaN || v.isInf then .error (.notFinite v)
  else if v < 0 || v > 100 then .error (.outOfRange v)
  else .ok ⟨v⟩

/-- The percentage of value `v`, if it is one. -/
def make? (v : Float) : Option Percent :=
  match make v with
  | .ok p => some p
  | .error _ => none

/-- Zero percent. -/
def zero : Percent := ⟨0⟩

/-- The remaining percentage of a used one: `100 - used`, when both are percentages. -/
def remainingFromUsed (used : Float) : Option Percent :=
  match make? used with
  | some u => make? (100 - u.value)
  | none => none

/-- Strictly below. -/
def less (p q : Percent) : Bool := p.value < q.value

/-- At most. -/
def atMost (p q : Percent) : Bool := p.value ≤ q.value

/-- The value rounded to a whole number, ties to even, then `%`. -/
def text (p : Percent) : String := Decimal.fixedText p.value 0 ++ "%"

end Percent

end QuotaWatch
