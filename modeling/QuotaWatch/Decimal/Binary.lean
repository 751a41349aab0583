/-!
**The exact value of a double.**

A double is either not a number, an infinity, or a finite value `± m · 2^e` with a natural
mantissa `m` and an integer exponent `e`. Every decimal text of a double in this library is
computed from that exact value in natural-number arithmetic, so no step rounds behind the
reader's back.
-/

namespace QuotaWatch

namespace Decimal

/-- A finite double `(-1)^neg · mant · 2^exp`. -/
structure Binary where
  neg : Bool
  mant : Nat
  exp : Int
  deriving Repr, DecidableEq

/-- The three kinds of double. -/
inductive FloatClass where
  | nan
  | inf (neg : Bool)
  | finite (b : Binary)
  deriving Repr, DecidableEq

/-- The kind and exact value of a double, read off its IEEE 754 bits: a biased exponent of
zero is subnormal, all ones is an infinity or not a number. -/
def classify (x : Float) : FloatClass :=
  let bits := x.toBits.toNat
  let neg := bits >>> 63 == 1
  let e := (bits >>> 52) &&& 0x7FF
  let f := bits &&& (Nat.pow 2 52 - 1)
  if e = 0x7FF then (if f = 0 then .inf neg else .nan)
  else if e = 0 then .finite ⟨neg, f, -1074⟩
  else .finite ⟨neg, f + Nat.pow 2 52, (e : Int) - 1075⟩

/-- The order between `d · 10^k` and `n · 2^e`, decided by scaling both sides to naturals. -/
def compareScaled (d : Nat) (k : Int) (n : Nat) (e : Int) : Ordering :=
  compare (d * Nat.pow 10 k.toNat * Nat.pow 2 (-e).toNat) (n * Nat.pow 2 e.toNat * Nat.pow 10 (-k).toNat)

/-- `⌊n · 2^e / 10^k⌋`, exactly. -/
def floorScaled (n : Nat) (e : Int) (k : Int) : Nat :=
  (n * Nat.pow 2 e.toNat * Nat.pow 10 (-k).toNat) / (Nat.pow 2 (-e).toNat * Nat.pow 10 k.toNat)

/-- The order between `d · 10^k` and the magnitude of `b`. -/
def Binary.compareDec (b : Binary) (d : Nat) (k : Int) : Ordering :=
  compareScaled d k b.mant b.exp

/-- The largest `E` with `10^E ≤ |b|`, for a nonzero `b`. A first guess from the binary
exponent (`log₁₀ 2 ≈ 78913 / 2^18`) is off by at most one, and is corrected both ways. -/
def Binary.decExp (b : Binary) : Int :=
  let e2 : Int := (Nat.log2 b.mant : Int) + b.exp
  let guess : Int := (e2 * 78913) / 262144
  let up := fun (g : Int) => if b.compareDec 1 (g + 1) != .gt then g + 1 else g
  let down := fun (g : Int) => if b.compareDec 1 g == .gt then g - 1 else g
  down (down (up (up guess)))

/-- A double truncated toward zero into a signed 64-bit whole number; a value that is not a
number or does not fit gives the smallest one, as a processor's conversion does. -/
def truncInt64 (x : Float) : Int :=
  match Decimal.classify x with
  | .finite b =>
    let mag : Int := (b.mant * Int.pow 2 b.exp.toNat) / Int.pow 2 (-b.exp).toNat
    let v := if b.neg then -mag else mag
    if -(Int.pow 2 63) ≤ v ∧ v < Int.pow 2 63 then v else -(Int.pow 2 63)
  | _ => -(Int.pow 2 63)

end Decimal

end QuotaWatch
