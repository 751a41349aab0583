import QuotaWatch.Decimal.Read
import QuotaWatch.Text.Quote
/-!
**Reading a number written as text.**

The accepted forms are a sign, then either `inf`, `infinity` or `nan` in any case (a sign only
before an infinity), a decimal mantissa with an optional point and an optional `e` exponent, or
a hexadecimal mantissa after `0x` with an optional point and a mandatory `p` exponent of two. At
least one mantissa digit is needed. Underscores may separate digits. The value is the nearest double; a value beyond the largest
double is out of range.
-/

namespace QuotaWatch

/-- Why a text is not a number. -/
inductive FloatTextError where
  | syntax_ (text : String)
  | range (text : String)
  deriving Inhabited

/-- The message of a refused number, naming the reader. -/
def FloatTextError.message : FloatTextError → String
  | .syntax_ s => "strconv.ParseFloat: parsing " ++ Text.quoted s ++ ": invalid syntax"
  | .range s => "strconv.ParseFloat: parsing " ++ Text.quoted s ++ ": value out of range"

namespace Decimal

/-- The digits at the head of a text in a base, and the rest. -/
def digitsHead (base : Nat) (cs : List Char) : List Nat × List Char :=
  let val := fun (c : Char) =>
    if '0' ≤ c ∧ c ≤ '9' then some (c.toNat - 48)
    else if base = 16 ∧ 'a' ≤ c ∧ c ≤ 'f' then some (c.toNat - 87)
    else if base = 16 ∧ 'A' ≤ c ∧ c ≤ 'F' then some (c.toNat - 55)
    else none
  let ds := cs.takeWhile fun c => (val c).isSome
  (ds.filterMap val, cs.drop ds.length)

/-- The value of digits in a base. -/
def digitsValue (base : Nat) (ds : List Nat) : Nat := ds.foldl (fun n d => base * n + d) 0

/-- A signed exponent: a sign and at least one digit, consuming the whole text. -/
def exponentOf (cs : List Char) : Option Int :=
  let (neg, cs) := match cs with
    | '-' :: r => (true, r)
    | '+' :: r => (false, r)
    | r => (false, r)
  let (ds, rest) := digitsHead 10 cs
  if ds.isEmpty || !rest.isEmpty then none
  else
    let v : Int := digitsValue 10 ds
    some (if neg then -v else v)

/-- The length of the common prefix of a text and a lowercase word, ignoring case. -/
def commonPrefixFold (cs : List Char) (word : String) : Nat :=
  ((cs.zip word.toList).takeWhile fun (a, b) => Text.asciiLower a = b).length

/-- Whether the underscores of a number stand only between digits, or between a base prefix
(`0b`, `0o`, `0x`) and a digit. The scan remembers what it saw last: `^` the start, `0` a digit
or the prefix, `_` an underscore, `!` anything else. -/
def underscoresFit (cs : List Char) : Bool :=
  let cs := match cs with
    | '-' :: r => r
    | '+' :: r => r
    | r => r
  let (hex, start, body) := match cs with
    | '0' :: b :: r =>
      let l := Text.asciiLower b
      if l = 'b' || l = 'o' || l = 'x' then (l == 'x', '0', r) else (false, '^', cs)
    | _ => (false, '^', cs)
  let step : Option Char → Char → Option Char := fun st c =>
    match st with
    | none => none
    | some saw =>
      let l := Text.asciiLower c
      if ('0' ≤ c && c ≤ '9') || (hex && 'a' ≤ l && l ≤ 'f') then some '0'
      else if c = '_' then (if saw = '0' then some '_' else none)
      else if saw = '_' then none
      else some '!'
  match body.foldl step (some start) with
  | some saw => saw ≠ '_'
  | none => false

/-- The double a text denotes. Underscores may separate digits (`underscoresFit`); they do not
count. -/
def parseFloat (s : String) : Except FloatTextError Float :=
  if s.toList.contains '_' && !underscoresFit s.toList then .error (.syntax_ s) else
  let cs := s.toList.filter (· ≠ '_')
  let (neg, signed, body) := match cs with
    | '-' :: r => (true, true, r)
    | '+' :: r => (false, true, r)
    | r => (false, false, r)
  let special : Option Float :=
    let n := commonPrefixFold body "infinity"
    if (n = 3 ∨ n = 8) ∧ body.length = n then some (if neg then -1 / 0 else 1 / 0)
    else if !signed ∧ commonPrefixFold body "nan" = 3 ∧ body.length = 3 then some (0 / 0)
    else none
  match special with
  | some x => .ok x
  | none =>
    let hex : Bool := match body with
      | '0' :: x :: _ => x == 'x' || x == 'X'
      | _ => false
    let base := if hex then 16 else 10
    let body := if hex then body.drop 2 else body
    let (ip, rest) := digitsHead base body
    let (fp, rest) := match rest with
      | '.' :: r => digitsHead base r
      | r => ([], r)
    let expPart : Option Int := match rest with
      | [] => if hex then none else some 0
      | e :: r =>
        if (!hex && (e == 'e' || e == 'E')) || (hex && (e == 'p' || e == 'P')) then exponentOf r else none
    match expPart with
    | none => .error (.syntax_ s)
    | some e =>
      if ip.isEmpty ∧ fp.isEmpty then .error (.syntax_ s)
      else
        let mant := digitsValue base (ip ++ fp)
        let result : Option Float :=
          if hex then
            if mant = 0 then assemble neg 0 0
            else
              let k : Int := e - 4 * fp.length
              let (m, x) := nearestBinary (mant * Nat.pow 2 k.toNat) (Nat.pow 2 (-k).toNat)
              assemble neg m x
          else ofDecimal neg mant (e - fp.length)
        match result with
        | some x => .ok x
        | none => .error (.range s)

end Decimal

end QuotaWatch
