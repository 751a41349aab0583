import QuotaWatch.Time.Instant
/-!
**Instants as text.**

Instants are exchanged as RFC 3339 timestamps with an optional fraction and `Z` or a `±hh:mm`
offset. Reading checks every field's range and keeps the offset, cutting fractions to
nanoseconds; writing drops trailing zeros of the fraction and writes `Z` for a zero offset. Other
texts are built from a `Stamp` of fields and read back from the fixed-width ones.
-/

namespace QuotaWatch

namespace Instant

/-- A natural number with at least `w` digits. -/
def pad (w : Nat) (n : Nat) : String :=
  let s := toString n
  String.ofList (List.replicate (w - s.length) '0') ++ s

/-- A year with at least four digits, and a sign when negative. -/
def yearText (y : Int) : String :=
  if y < 0 then "-" ++ pad 4 y.natAbs else pad 4 y.toNat

/-- The digits of a character list as a number, if all are digits. -/
def digitsVal? (cs : List Char) : Option Nat :=
  if cs.all Char.isDigit ∧ !cs.isEmpty then
    some (cs.foldl (fun n c => 10 * n + (c.toNat - 48)) 0)
  else none

/-- A field of digits within `[lo, hi]`. -/
def rangeField? (cs : List Char) (lo hi : Nat) : Option Nat :=
  match digitsVal? cs with
  | some v => if lo ≤ v ∧ v ≤ hi then some v else none
  | none => none

/-- Nanoseconds from fraction digits: the first nine, padded on the right. -/
def fracNanos (ds : List Char) : Nat :=
  let ds := ds.take 9
  (ds ++ List.replicate (9 - ds.length) '0').foldl (fun n c => 10 * n + (c.toNat - 48)) 0

/-- Reads an RFC 3339 timestamp, keeping its offset. -/
def parseRfc3339? (s : String) : Option Instant := do
  let cs := s.toList
  if cs.length < 19 then none
  let year ← rangeField? (cs.take 4) 0 9999
  let month ← rangeField? ((cs.drop 5).take 2) 1 12
  let day ← rangeField? ((cs.drop 8).take 2) 1 (daysIn month year)
  let hour ← rangeField? ((cs.drop 11).take 2) 0 23
  let minute ← rangeField? ((cs.drop 14).take 2) 0 59
  let second ← rangeField? ((cs.drop 17).take 2) 0 59
  if !(cs[4]? == some '-' && cs[7]? == some '-' && cs[10]? == some 'T' &&
      cs[13]? == some ':' && cs[16]? == some ':') then none
  let rest := cs.drop 19
  let (nsec, rest) := match rest with
    | '.' :: d :: r =>
      if d.isDigit then
        let ds := (d :: r).takeWhile Char.isDigit
        (fracNanos ds, (d :: r).drop ds.length)
      else (0, rest)
    | _ => (0, rest)
  match rest with
  | ['Z'] => some (ofCivil year month day hour minute second nsec 0)
  | [sg, h1, h2, ':', m1, m2] =>
    let hh ← rangeField? [h1, h2] 0 23
    let mm ← rangeField? [m1, m2] 0 59
    if sg = '+' then some (ofCivil year month day hour minute second nsec ((hh * 60 + mm) * 60))
    else if sg = '-' then
      some (ofCivil year month day hour minute second nsec (-(((hh * 60 + mm) * 60 : Nat) : Int)))
    else none
  | _ => none

/-- Reads a timestamp as a reader of the RFC 3339 layout does: besides what
`parseRfc3339?` accepts, the hour may have one digit, the fraction may follow a comma, and the
offset may reach `24` hours or `60` minutes. -/
def parseRfc3339Loose? (s : String) : Option Instant :=
  match parseRfc3339? s with
  | some t => some t
  | none => loose s.toList
where
  two (cs : List Char) (lo hi : Nat) : Option (Nat × List Char) := do
    let v ← rangeField? (cs.take 2) lo hi
    if (cs.take 2).length < 2 then none
    return (v, cs.drop 2)
  lit (c : Char) (cs : List Char) : Option (List Char) :=
    match cs with
    | d :: r => if d = c then some r else none
    | [] => none
  loose (cs : List Char) : Option Instant := do
    let year ← digitsVal? (cs.take 4)
    if (cs.take 4).length < 4 then none
    let cs ← lit '-' (cs.drop 4)
    let (month, cs) ← two cs 1 12
    let cs ← lit '-' cs
    let (day, cs) ← two cs 1 31
    let cs ← lit 'T' cs
    let (hour, cs) ← match cs with
      | a :: b :: r =>
        if a.isDigit ∧ b.isDigit then some (10 * (a.toNat - 48) + (b.toNat - 48), r)
        else if a.isDigit then some (a.toNat - 48, b :: r) else none
      | [a] => if a.isDigit then some (a.toNat - 48, []) else none
      | [] => none
    if hour > 23 then none
    let cs ← lit ':' cs
    let (minute, cs) ← two cs 0 59
    let cs ← lit ':' cs
    let (second, cs) ← two cs 0 59
    let (nsec, cs) := match cs with
      | sep :: d :: r =>
        if (sep = '.' ∨ sep = ',') ∧ d.isDigit then
          let ds := (d :: r).takeWhile Char.isDigit
          (fracNanos ds, (d :: r).drop ds.length)
        else (0, cs)
      | _ => (0, cs)
    if day > daysIn month year then none
    match cs with
    | ['Z'] => some (ofCivil year month day hour minute second nsec 0)
    | [sg, h1, h2, ':', m1, m2] =>
      let hh ← rangeField? [h1, h2] 0 24
      let mm ← rangeField? [m1, m2] 0 60
      let off : Int := ((hh * 60 + mm) * 60 : Nat)
      if sg = '+' then some (ofCivil year month day hour minute second nsec off)
      else if sg = '-' then some (ofCivil year month day hour minute second nsec (-off))
      else none
    | _ => none

/-- The offset as `Z` or `±hh:mm`. -/
def offsetText (off : Int) : String :=
  if off = 0 then "Z"
  else
    let a := off.natAbs / 60
    (if off < 0 then "-" else "+") ++ pad 2 (a / 60) ++ ":" ++ pad 2 (a % 60)

/-- The fraction of a second with its point, trailing zeros dropped; empty for none. -/
def fracText (nsec : Nat) : String :=
  if nsec = 0 then ""
  else "." ++ String.ofList ((pad 9 nsec).toList.reverse.dropWhile (· = '0')).reverse

/-- The RFC 3339 timestamp of an instant in its zone, with the fraction it has. -/
def rfc3339 (t : Instant) : String :=
  let c := t.civil
  yearText c.year ++ "-" ++ pad 2 c.month ++ "-" ++ pad 2 c.day ++ "T" ++ pad 2 c.hour ++ ":" ++
    pad 2 c.minute ++ ":" ++ pad 2 c.second ++ fracText c.nsec ++ offsetText t.offset

end Instant

/-- A field of a stamp. -/
inductive StampPart where
  | lit (s : String)
  /-- The year, four digits at least. -/
  | year
  /-- The month as two digits. -/
  | month
  /-- The month as its three-letter English abbreviation. -/
  | monthAbbr
  /-- The day of the month as two digits. -/
  | day
  /-- The day of the month without padding. -/
  | dayPlain
  /-- The hour of a 24-hour clock as two digits. -/
  | hour
  /-- The hour of a 12-hour clock without padding (12 for noon and midnight). -/
  | hour12
  | minute
  | second
  /-- Milliseconds as three digits, after a point. -/
  | millis
  /-- `AM` or `PM`. -/
  | meridiem
  deriving DecidableEq, Repr

/-- The English month abbreviations. -/
def monthAbbrs : List String :=
  ["Jan", "Feb", "Mar", "Apr", "May", "Jun", "Jul", "Aug", "Sep", "Oct", "Nov", "Dec"]

namespace Instant

/-- The text of one field. -/
def stampPart (c : Civil) : StampPart → String
  | .lit s => s
  | .year => yearText c.year
  | .month => pad 2 c.month
  | .monthAbbr => monthAbbrs.getD (c.month - 1) ""
  | .day => pad 2 c.day
  | .dayPlain => toString c.day
  | .hour => pad 2 c.hour
  | .hour12 => toString (if c.hour % 12 = 0 then 12 else c.hour % 12)
  | .minute => pad 2 c.minute
  | .second => pad 2 c.second
  | .millis => "." ++ pad 3 (c.nsec / 1000000)
  | .meridiem => if c.hour < 12 then "AM" else "PM"

/-- An instant written as a stamp, in its zone. -/
def stamp (t : Instant) (parts : List StampPart) : String :=
  String.join (parts.map (stampPart t.civil))

/-- Reads an instant in UTC from a stamp made of literals and the fixed-width numeric fields
`year`, `month`, `day`, `hour`, `minute`, `second` and `millis` (whose point may also be a
comma). -/
def parseStamp? (parts : List StampPart) (s : String) : Option Instant :=
  go parts s.toList ⟨1, 1, 1, 0, 0, 0, 0⟩
where
  go : List StampPart → List Char → Civil → Option Instant
    | [], [], c =>
      if c.day > daysIn c.month c.year then none
      else some (ofCivil c.year c.month c.day c.hour c.minute c.second c.nsec 0)
    | [], _ :: _, _ => none
    | .lit l :: ps, cs, c =>
      if cs.take l.length == l.toList then go ps (cs.drop l.length) c else none
    | .year :: ps, cs, c => do
      let v ← digitsVal? (cs.take 4)
      if (cs.take 4).length < 4 then none
      go ps (cs.drop 4) { c with year := v }
    | .month :: ps, cs, c => do
      let v ← rangeField? (cs.take 2) 1 12
      if (cs.take 2).length < 2 then none
      go ps (cs.drop 2) { c with month := v }
    | .day :: ps, cs, c => do
      let v ← rangeField? (cs.take 2) 1 31
      if (cs.take 2).length < 2 then none
      go ps (cs.drop 2) { c with day := v }
    | .hour :: ps, cs, c => do
      let v ← rangeField? (cs.take 2) 0 23
      if (cs.take 2).length < 2 then none
      go ps (cs.drop 2) { c with hour := v }
    | .minute :: ps, cs, c => do
      let v ← rangeField? (cs.take 2) 0 59
      if (cs.take 2).length < 2 then none
      go ps (cs.drop 2) { c with minute := v }
    | .second :: ps, cs, c => do
      let v ← rangeField? (cs.take 2) 0 59
      if (cs.take 2).length < 2 then none
      go ps (cs.drop 2) { c with second := v }
    | .millis :: ps, cs, c =>
      match cs with
      | p :: a :: b :: d :: r => do
        if p ≠ '.' ∧ p ≠ ',' then none
        let v ← digitsVal? [a, b, d]
        go ps r { c with nsec := v * 1000000 }
      | _ => none
    | _ :: _, _, _ => none

end Instant

end QuotaWatch
