import QuotaWatch.Decimal.Binary
/-!
**The shortest decimal that reads back as a given double.**

A decimal reads back as `b` when it lies between the midpoints to `b`'s neighbours, ends included
exactly for an even mantissa. We take one with the fewest significant digits, then the nearest,
ties to the even digit string. For `n = 1, …, 17` digits only the two grid points of step
`10^(E - n + 1)` around `|b|` need testing; seventeen digits always succeed.
-/

namespace QuotaWatch

namespace Decimal

/-- A nonzero decimal `0.digits × 10^point`: its significant digits (no trailing zero) and
how many of them stand before the decimal point (may be negative or exceed their count). -/
structure Sci where
  digits : String
  point : Int
  deriving Repr, DecidableEq

/-- The rounding interval of `b` as `(low, high)` in units of `2^(exp - 2)`, where the value
itself is `4 · mant`. The lower gap is half as wide at a power of two above the subnormals. -/
def Binary.interval (b : Binary) : Nat × Nat :=
  let lowGap := if b.mant = Nat.pow 2 52 ∧ b.exp > -1074 then 1 else 2
  (4 * b.mant - lowGap, 4 * b.mant + 2)

/-- Whether `d · 10^k` reads back as `b`. -/
def Binary.readsBack (b : Binary) (d : Nat) (k : Int) : Bool :=
  let (lo, hi) := b.interval
  let cl := compareScaled d k lo (b.exp - 2)
  let ch := compareScaled d k hi (b.exp - 2)
  if b.mant % 2 = 0 then cl != .lt && ch != .gt else cl == .gt && ch == .lt

/-- Of the two grid points `d · 10^k` and `(d+1) · 10^k` around `|b|`, the nearer one; an
exact tie goes to the even one. -/
def Binary.nearer (b : Binary) (d : Nat) (k : Int) : Nat :=
  match compareScaled (2 * d + 1) k (2 * b.mant) b.exp with
  | .gt => d
  | .lt => d + 1
  | .eq => if d % 2 = 0 then d else d + 1

/-- The decimal with `n` significant digits that reads back as `b`, if there is one. -/
def Binary.atDigits (b : Binary) (e : Int) (n : Nat) : Option (Nat × Int) :=
  let k := e - n + 1
  let d := floorScaled b.mant b.exp k
  match b.readsBack d k, b.readsBack (d + 1) k with
  | true, true => some (b.nearer d k, k)
  | true, false => some (d, k)
  | false, true => some (d + 1, k)
  | false, false => none

/-- Removes the trailing zeros of `d · 10^k` without changing its value. -/
def dropZeros (d : Nat) (k : Int) : Nat × Int :=
  if h : d ≠ 0 ∧ d % 10 = 0 then dropZeros (d / 10) (k + 1) else (d, k)
termination_by d
decreasing_by omega

/-- The shortest, nearest decimal `(d, k)` that reads back as a nonzero `b`, with no trailing
zero in `d`. -/
def Binary.shortest (b : Binary) : Nat × Int :=
  let e := b.decExp
  let found := (List.range 17).findSome? fun i => b.atDigits e (i + 1)
  let (d, k) := found.getD (floorScaled b.mant b.exp (e - 16), e - 16)
  dropZeros d k

/-- The shortest decimal of a nonzero `b` as digits and point position. -/
def Binary.shortestSci (b : Binary) : Sci :=
  let (d, k) := b.shortest
  let s := toString d
  ⟨s, k + s.length⟩

end Decimal

end QuotaWatch
