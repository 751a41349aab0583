import QuotaWatch.Decimal.Binary
/-!
**Reading decimals into doubles.**

A decimal `± d · 10^k` becomes the double nearest to it, a tie going to the even mantissa; a
value at or beyond the midpoint above the largest finite double becomes an infinity, which the
callers report as out of range. The rounding is done on the exact ratio of naturals, and the
double is assembled from its bits.
-/

namespace QuotaWatch

namespace Decimal

/-- `⌊log₂ (num / den)⌋` for positive `num` and `den`, from bit lengths corrected by one
comparison. -/
def log2Ratio (num den : Nat) : Int :=
  let g : Int := (Nat.log2 num : Int) - Nat.log2 den
  -- `2^g ≤ num/den` holds iff `2^g·den ≤ num`.
  if Nat.pow 2 g.toNat * den ≤ num * Nat.pow 2 (-g).toNat then g else g - 1

/-- The nearest double to the positive ratio `num / den` as `(mant, exp)` with
`mant < 2^53`, a tie going to the even mantissa; `mant = 2^53` never occurs, as a carry
moves to the exponent. Exponents are clamped below at the subnormal exponent `-1074`. -/
def nearestBinary (num den : Nat) : Nat × Int :=
  let e := log2Ratio num den
  let q : Int := max (e - 52) (-1074)
  let m := roundHalfEvenRatio (num * Nat.pow 2 (-q).toNat) (den * Nat.pow 2 q.toNat)
  if m = Nat.pow 2 53 then (Nat.pow 2 52, q + 1) else (m, q)
where
  /-- `a / b` rounded to nearest, ties to even. -/
  roundHalfEvenRatio (a b : Nat) : Nat :=
    let r := a % b
    if 2 * r > b then a / b + 1
    else if 2 * r < b then a / b
    else if (a / b) % 2 = 0 then a / b else a / b + 1

/-- The double with the given sign, mantissa and exponent, assembled from its bits; `none`
when the exponent is beyond the largest finite double. -/
def assemble (neg : Bool) (mant : Nat) (exp : Int) : Option Float :=
  let sign : Nat := if neg then Nat.pow 2 63 else 0
  if mant = 0 then some (Float.ofBits (UInt64.ofNat sign))
  else if mant < Nat.pow 2 52 then some (Float.ofBits (UInt64.ofNat (sign + mant)))
  else
    let biased := exp + 1075
    if biased ≥ 2047 then none
    else some (Float.ofBits (UInt64.ofNat (sign + biased.toNat * Nat.pow 2 52 + (mant - Nat.pow 2 52))))

/-- The number of decimal digits of a positive natural. -/
def digitCount (n : Nat) : Nat := (toString n).length

/-- The double nearest to `± d · 10^k`, or `none` when its magnitude rounds beyond the largest
finite double. Values far outside the range of doubles are settled by their digit count
alone, before any power of ten is formed. -/
def ofDecimal (neg : Bool) (d : Nat) (k : Int) : Option Float :=
  if d = 0 then assemble neg 0 0
  else
    let top : Int := k + digitCount d
    if top > 310 then none
    else if top < -330 then assemble neg 0 0
    else
      let (m, e) := nearestBinary (d * Nat.pow 10 k.toNat) (Nat.pow 10 (-k).toNat)
      assemble neg m e

end Decimal

end QuotaWatch
