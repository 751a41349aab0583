import QuotaWatch.Decimal.Shortest
/-!
**Decimal text of doubles: shortest forms and fixed places.**

Shortest forms write the digits of `Binary.shortestSci` positionally or with an exponent, as a
`ShortestStyle` says: document numbers are positional for exponents `-6 … 20`, messages for
`-4 … 5`. The fixed form rounds the exact value to a number of places, ties to even, keeping the
sign of a negative value that rounds to zero.
-/

namespace QuotaWatch

namespace Decimal

/-- `n` copies of the digit zero. -/
def zeros (n : Nat) : String := String.ofList (List.replicate n '0')

/-- The digits with the point placed: `0.000ddd`, `ddd000` or `dd.d`. -/
def Sci.positional (s : Sci) : String :=
  let n : Int := s.digits.length
  if s.point ≤ 0 then "0." ++ zeros (-s.point).toNat ++ s.digits
  else if s.point ≥ n then s.digits ++ zeros (s.point - n).toNat
  else
    let cs := s.digits.toList
    String.ofList (cs.take s.point.toNat) ++ "." ++ String.ofList (cs.drop s.point.toNat)

/-- The exponent of a decimal in scientific layout: the power of ten of its first digit. -/
def Sci.exponent (s : Sci) : Int := s.point - 1

/-- The digits as `d.ddde±xx`, the exponent written with at least `expDigits` digits. -/
def Sci.exponential (s : Sci) (expDigits : Nat) : String :=
  let cs := s.digits.toList
  let lead := String.ofList (cs.take 1)
  let rest := String.ofList (cs.drop 1)
  let mant := if rest.isEmpty then lead else lead ++ "." ++ rest
  let e := s.exponent
  let sign := if e < 0 then "-" else "+"
  let ds := toString e.natAbs
  mant ++ "e" ++ sign ++ zeros (expDigits - ds.length) ++ ds

/-- Where a shortest form switches to exponent layout and how it writes the exponent. -/
structure ShortestStyle where
  /-- Exponent layout for decimal exponents below this. -/
  expBelow : Int
  /-- Exponent layout for decimal exponents at or above this. -/
  expFrom : Int
  /-- The least number of exponent digits. -/
  expDigits : Nat

/-- Numbers in documents: positional from `1e-6` up to below `1e21`, and exponents with as
few digits as they need (`1e-7`, `1e+21`). -/
def ShortestStyle.document : ShortestStyle := ⟨-6, 21, 1⟩

/-- Numbers in messages: positional for decimal exponents `-4 … 5`, and exponents with at
least two digits (`1e+06`, `1.5e-05`). -/
def ShortestStyle.message : ShortestStyle := ⟨-4, 6, 2⟩

/-- A finite double in a shortest style; zero is `0` or `-0`. -/
def Binary.shortestText (b : Binary) (st : ShortestStyle) : String :=
  let sign := if b.neg then "-" else ""
  if b.mant = 0 then sign ++ "0"
  else
    let s := b.shortestSci
    let e := s.exponent
    if e < st.expBelow ∨ e ≥ st.expFrom then sign ++ s.exponential st.expDigits
    else sign ++ s.positional

/-- A double in a shortest style; not-a-number is `NaN` and the infinities `+Inf`, `-Inf`. -/
def shortestText (x : Float) (st : ShortestStyle) : String :=
  match classify x with
  | .nan => "NaN"
  | .inf neg => if neg then "-Inf" else "+Inf"
  | .finite b => b.shortestText st

/-- `num / den` rounded to the nearest natural, a tie going to the even one. -/
def roundHalfEven (num den : Nat) : Nat :=
  let q := num / den
  let r := num % den
  if 2 * r > den then q + 1
  else if 2 * r < den then q
  else if q % 2 = 0 then q else q + 1

/-- A finite double rounded to `places` decimals, ties to even, sign kept for negatives. -/
def Binary.fixedText (b : Binary) (places : Nat) : String :=
  let n := roundHalfEven (b.mant * Nat.pow 2 b.exp.toNat * Nat.pow 10 places) (Nat.pow 2 (-b.exp).toNat)
  let ds := toString n
  let ds := zeros (places + 1 - ds.length) ++ ds
  let body :=
    if places = 0 then ds
    else
      let cs := ds.toList
      String.ofList (cs.take (cs.length - places)) ++ "." ++ String.ofList (cs.drop (cs.length - places))
  (if b.neg then "-" else "") ++ body

/-- A double rounded to `places` decimals; not-a-number is `NaN` and the infinities `+Inf`,
`-Inf`. -/
def fixedText (x : Float) (places : Nat) : String :=
  match classify x with
  | .nan => "NaN"
  | .inf neg => if neg then "-Inf" else "+Inf"
  | .finite b => b.fixedText places

end Decimal

end QuotaWatch
