import QuotaWatch.Json.Value
import QuotaWatch.Text.Utf8
import QuotaWatch.Time.Text
/-!
**Typed members of request documents.**

A missing or `null` member takes a default; one of the wrong kind is refused with a message naming
it. Whole numbers take no fraction or exponent; doubles also take `NaN`, `Inf`, `+Inf`, `-Inf`;
bytes are the UTF-8 of member `k` or the hexadecimal of `k_hex`, which wins; an instant is an RFC
3339 string, `""` for the zero instant.
-/

namespace QuotaWatch.Json

/-- A member that is present and not `null`. -/
def member? (j : Json) (k : String) : Option Json :=
  match j.get? k with
  | some .null => none
  | o => o

/-- The refusal of member `k` for not being `what`. -/
def refuse {α : Type} (k what : String) : Except String α :=
  .error ("field " ++ k ++ ": not " ++ what)

/-- A string member, `d` when absent. -/
def strAt (j : Json) (k : String) (d : String) : Except String String :=
  match member? j k with
  | none => .ok d
  | some (.str s) => .ok s
  | some _ => refuse k "a string"

/-- A string member, `none` when absent. -/
def strAt? (j : Json) (k : String) : Except String (Option String) :=
  match member? j k with
  | none => .ok none
  | some _ => some <$> strAt j k ""

/-- A boolean member, `false` when absent. -/
def boolAt (j : Json) (k : String) : Except String Bool :=
  match member? j k with
  | none => .ok false
  | some (.bool b) => .ok b
  | some _ => refuse k "a bool"

/-- A whole-number member, `d` when absent. -/
def intAt (j : Json) (k : String) (d : Int) : Except String Int :=
  match member? j k with
  | none => .ok d
  | some (.num l) => match litInt? l with
    | some i => .ok i
    | none => refuse k "an integer"
  | some _ => refuse k "an integer"

/-- A double written as a number or as the name of a value that is not finite. -/
def toFloat? : Json → Option Float
  | .num l => litFloat? l
  | .str "NaN" => some (0.0 / 0.0)
  | .str "Inf" => some (1.0 / 0.0)
  | .str "+Inf" => some (1.0 / 0.0)
  | .str "-Inf" => some (-1.0 / 0.0)
  | _ => none

/-- A double member, `none` when absent. -/
def floatAt? (j : Json) (k : String) : Except String (Option Float) :=
  match member? j k with
  | none => .ok none
  | some v => match toFloat? v with
    | some x => .ok (some x)
    | none => refuse k "a float"

/-- A double member, `d` when absent. -/
def floatAt (j : Json) (k : String) (d : Float) : Except String Float :=
  (·.getD d) <$> floatAt? j k

/-- The value of a hexadecimal digit of either case. -/
def hexDigit (c : Char) : Nat :=
  if c.isDigit then c.toNat - 48 else if 'a' ≤ c ∧ c ≤ 'f' then c.toNat - 87 else c.toNat - 55

/-- The bytes spelled by pairs of hexadecimal digits; an odd last digit is ignored. -/
def unhex : List Char → List UInt8
  | a :: b :: r => UInt8.ofNat (hexDigit a * 16 + hexDigit b) :: unhex r
  | _ => []

/-- A bytes member, `none` when neither `k` nor `k_hex` is given. -/
def bytesAt? (j : Json) (k : String) : Except String (Option (List UInt8)) :=
  match member? j (k ++ "_hex"), member? j k with
  | some (.str h), _ => .ok (some (unhex h.toList))
  | some _, _ => refuse (k ++ "_hex") "a hex string"
  | none, some (.str s) => .ok (some (Utf8.bytesOf s))
  | none, some _ => refuse k "bytes"
  | none, none => .ok none

/-- A bytes member, empty when absent. -/
def bytesAt (j : Json) (k : String) : Except String (List UInt8) :=
  (·.getD []) <$> bytesAt? j k

/-- An instant member, `none` when absent. -/
def instantAt? (j : Json) (k : String) : Except String (Option Instant) :=
  match member? j k with
  | none => .ok none
  | some (.str "") => .ok (some Instant.zero)
  | some (.str s) => match Instant.parseRfc3339? s with
    | some t => .ok (some t)
    | none => .error ("field " ++ k ++ ": bad time " ++ s)
  | some _ => refuse k "a time"

/-- An instant member, the zero instant when absent. -/
def instantAt (j : Json) (k : String) : Except String Instant :=
  (·.getD Instant.zero) <$> instantAt? j k

/-- A duration member in nanoseconds, `d` when absent. -/
def durationAt (j : Json) (k : String) (d : Duration) : Except String Duration :=
  match member? j k with
  | none => .ok d
  | some _ => Duration.ofInt <$> intAt j k 0

/-- The items of an array member; anything else is no items. -/
def itemsAt (j : Json) (k : String) : List Json :=
  match member? j k with
  | some (.arr xs) => xs
  | _ => []

/-- An object member, the empty object when absent. -/
def objAt (j : Json) (k : String) : Json := (member? j k).getD (.obj [])

/-- The strings of an array member. -/
def stringsAt (j : Json) (k : String) : Except String (List String) :=
  (itemsAt j k).mapM fun
    | .str s => .ok s
    | _ => refuse k "a list of strings"

/-- The doubles of an array member. -/
def floatsAt (j : Json) (k : String) : Except String (List Float) :=
  (itemsAt j k).mapM fun v => match toFloat? v with
    | some x => .ok x
    | none => refuse k "a list of floats"

/-- The string members of an object member, in document order. -/
def stringTableAt (j : Json) (k : String) : Except String (List (String × String)) :=
  match member? j k with
  | some (.obj kvs) => kvs.mapM fun
    | (n, .str s) => .ok (n, s)
    | (n, _) => refuse (k ++ "." ++ n) "a string"
  | _ => .ok []

end QuotaWatch.Json
