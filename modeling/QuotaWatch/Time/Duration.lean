/-!
**Durations: signed 64-bit counts of nanoseconds.**

A duration is an `Int64` number of nanoseconds, so sums and products wrap around as 64-bit
words do, which the configuration reader can show. Besides the constants and the rounding to a
multiple, this module reads and writes the usual unit text (`1h30m`, `1.5s`, `300ms`).
-/

namespace QuotaWatch

/-- A signed 64-bit number of nanoseconds. -/
structure Duration where
  nanos : Int64
  deriving DecidableEq, Inhabited, Repr

namespace Duration

instance : LT Duration := ⟨fun a b => a.nanos < b.nanos⟩
instance : LE Duration := ⟨fun a b => a.nanos ≤ b.nanos⟩
instance (a b : Duration) : Decidable (a < b) := inferInstanceAs (Decidable (a.nanos < b.nanos))
instance (a b : Duration) : Decidable (a ≤ b) := inferInstanceAs (Decidable (a.nanos ≤ b.nanos))

/-- The duration of `n` nanoseconds, wrapped into 64 bits. -/
def ofInt (n : Int) : Duration := ⟨Int64.ofInt n⟩

/-- The number of nanoseconds. -/
def toInt (d : Duration) : Int := d.nanos.toInt

def zero : Duration := ⟨0⟩
def nanosecond : Duration := ⟨1⟩
def microsecond : Duration := ⟨1000⟩
def millisecond : Duration := ⟨1000000⟩
def second : Duration := ⟨1000000000⟩
def minute : Duration := ⟨60000000000⟩
def hour : Duration := ⟨3600000000000⟩

/-- The largest and the smallest duration. -/
def max : Duration := ⟨Int64.ofInt (Int.pow 2 63 - 1)⟩
def min : Duration := ⟨Int64.ofInt (-(Int.pow 2 63))⟩

instance : Add Duration := ⟨fun a b => ⟨a.nanos + b.nanos⟩⟩
instance : Sub Duration := ⟨fun a b => ⟨a.nanos - b.nanos⟩⟩
instance : Neg Duration := ⟨fun a => ⟨-a.nanos⟩⟩

/-- `n` times a duration, wrapping. -/
def scale (n : Int64) (d : Duration) : Duration := ⟨n * d.nanos⟩

/-- Whether `2·x < y` for `0 ≤ x`, `0 < y`, computed without overflow. -/
def lessThanHalf (x y : Int) : Bool := 2 * x < y

/-- `d` rounded to the nearest multiple of `m`, halves away from zero; the smallest or
largest duration when the rounded value does not fit; `d` itself for `m ≤ 0`. -/
def round (d m : Duration) : Duration :=
  let dv := d.toInt
  let mv := m.toInt
  if mv ≤ 0 then d
  else
    let r := dv.tmod mv
    if dv < 0 then
      let r := -r
      if lessThanHalf r mv then ofInt (dv + r)
      else
        let d1 := dv - mv + r
        if d1 ≥ -(Int.pow 2 63) then ofInt d1 else min
    else
      if lessThanHalf r mv then ofInt (dv - r)
      else
        let d1 := dv + mv - r
        if d1 < Int.pow 2 63 then ofInt d1 else max

/-! ### Unit text -/

/-- The nanoseconds of a unit name. -/
def unitNanos (u : String) : Option Nat :=
  if u = "ns" then some 1
  else if u = "us" ∨ u = "µs" ∨ u = "μs" then some 1000
  else if u = "ms" then some 1000000
  else if u = "s" then some 1000000000
  else if u = "m" then some 60000000000
  else if u = "h" then some 3600000000000
  else none

/-- Why a unit text is not a duration. -/
inductive ParseError where
  | invalid (text : String)
  | missingUnit (text : String)
  | unknownUnit (unit text : String)
  deriving Repr, DecidableEq

/-- A text in double quotes, as in messages. -/
def quoted (s : String) : String := "\"" ++ s ++ "\""

/-- The message of a parse error. -/
def ParseError.message : ParseError → String
  | .invalid t => "time: invalid duration " ++ quoted t
  | .missingUnit t => "time: missing unit in duration " ++ quoted t
  | .unknownUnit u t => "time: unknown unit " ++ quoted u ++ " in duration " ++ quoted t

/-- Leading decimal digits as a number, `none` when it passes `2^63`. -/
def leadingInt (cs : List Char) : Option Nat × List Char :=
  let ds := cs.takeWhile Char.isDigit
  let v := ds.foldl (fun (acc : Option Nat) c => acc.bind fun x =>
    if x > Nat.pow 2 63 / 10 then none
    else let y := x * 10 + (c.toNat - 48); if y > Nat.pow 2 63 then none else some y) (some 0)
  (v, cs.drop ds.length)

/-- Leading fraction digits as `(value, 10^count)`, digits past 63 bits of precision being
skipped. -/
def leadingFraction (cs : List Char) : Nat × Float × List Char :=
  let ds := cs.takeWhile Char.isDigit
  let (x, sc, _) := ds.foldl (fun (st : Nat × Float × Bool) c =>
    let (x, sc, full) := st
    if full then st
    else if x > (Nat.pow 2 63 - 1) / 10 then (x, sc, true)
    else
      let y := x * 10 + (c.toNat - 48)
      if y > Nat.pow 2 63 then (x, sc, true) else (y, sc * 10, false)) (0, 1, false)
  (x, sc, cs.drop ds.length)

/-- Reads the unit terms of a duration text after its sign; `fuel` bounds their number. -/
def parseTerms (orig : String) (fuel : Nat) (acc : Nat) (cs : List Char) :
    Except ParseError Nat :=
  match fuel with
  | 0 => .ok acc
  | fuel + 1 =>
    match cs with
    | [] => .ok acc
    | c :: _ =>
      if !(c = '.' ∨ c.isDigit) then .error (.invalid orig)
      else
        let (v?, r) := leadingInt cs
        match v? with
        | none => .error (.invalid orig)
        | some v =>
          let pre := r.length != cs.length
          let (f, sc, r, post) := match r with
            | '.' :: r1 =>
              let (f, sc, r2) := leadingFraction r1
              (f, sc, r2, r2.length != r1.length)
            | _ => (0, 1, r, false)
          if !pre && !post then .error (.invalid orig)
          else
            let u := r.takeWhile (fun x => !(x = '.' ∨ x.isDigit))
            let r := r.drop u.length
            if u.isEmpty then .error (.missingUnit orig)
            else
              match unitNanos (String.ofList u) with
              | none => .error (.unknownUnit (String.ofList u) orig)
              | some unit =>
                if v > Nat.pow 2 63 / unit then .error (.invalid orig)
                else
                  let v := v * unit
                  let v := if f > 0 then
                      v + (Float.ofNat f * (Float.ofNat unit / sc)).toUInt64.toNat
                    else v
                  if v > Nat.pow 2 63 then .error (.invalid orig)
                  else
                    let acc := acc + v
                    if acc > Nat.pow 2 63 then .error (.invalid orig)
                    else parseTerms orig fuel acc r

/-- The duration a unit text denotes: an optional sign, then one or more terms of a decimal
number and a unit among `ns us µs ms s m h`; `0` alone is zero. -/
def parse? (s : String) : Except ParseError Duration :=
  let cs := s.toList
  let (neg, cs) := match cs with
    | '-' :: r => (true, r)
    | '+' :: r => (false, r)
    | r => (false, r)
  if cs = ['0'] then .ok zero
  else if cs.isEmpty then .error (.invalid s)
  else
    match parseTerms s (cs.length + 1) 0 cs with
    | .error e => .error e
    | .ok d =>
      if neg then .ok (ofInt (-(d : Int)))
      else if d > Nat.pow 2 63 - 1 then .error (.invalid s)
      else .ok (ofInt d)

/-- The digits of `v / 10^prec` after the point, trailing zeros dropped, with the point; empty
when the fraction is zero. -/
def fracText (v : Nat) (prec : Nat) : String :=
  let f := v % Nat.pow 10 prec
  if f = 0 then ""
  else
    let ds := toString f
    let ds := String.ofList (List.replicate (prec - ds.length) '0') ++ ds
    "." ++ String.ofList ((ds.toList.reverse.dropWhile (· = '0')).reverse)

/-- The unit text of a duration: below a second in the largest fitting unit among `ns`, `µs`,
`ms` with a fraction; otherwise hours, minutes and seconds, leading zero units omitted. -/
def text (d : Duration) : String :=
  let v := d.toInt
  let u := v.natAbs
  let sign := if v < 0 then "-" else ""
  if u = 0 then "0s"
  else if u < 1000 then sign ++ toString u ++ "ns"
  else if u < 1000000 then sign ++ toString (u / 1000) ++ fracText u 3 ++ "µs"
  else if u < 1000000000 then sign ++ toString (u / 1000000) ++ fracText u 6 ++ "ms"
  else
    let secs := u / 1000000000
    let s := toString (secs % 60) ++ fracText u 9 ++ "s"
    let mins := secs / 60
    if mins = 0 then sign ++ s
    else
      let s := toString (mins % 60) ++ "m" ++ s
      let hrs := mins / 60
      if hrs = 0 then sign ++ s else sign ++ toString hrs ++ "h" ++ s

end Duration

end QuotaWatch
