import QuotaWatch.Time.Duration
/-!
**Instants on the proleptic Gregorian calendar.**

An instant is whole seconds since `0001-01-01T00:00:00Z`, nanoseconds, and the offset of the zone
it is shown in; two instants are the same moment when seconds and nanoseconds agree. Adding a
duration saturates at the ends of the 64-bit range, and a difference that does not fit is the
smallest or largest duration.
-/

namespace QuotaWatch

/-- A moment: seconds since `0001-01-01T00:00:00Z`, nanoseconds, and the zone offset in
seconds that it is shown in. -/
structure Instant where
  sec : Int
  nsec : Nat
  offset : Int := 0
  deriving DecidableEq, Inhabited, Repr

namespace Instant

/-- Seconds from `0001-01-01` to `1970-01-01`. -/
def unixEpochSec : Int := 62135596800

/-- The first instant of year one, in UTC; it stands for "no time". -/
def zero : Instant := ⟨0, 0, 0⟩

/-- Whether an instant is the first instant of year one. -/
def isZero (t : Instant) : Bool := t.sec == 0 && t.nsec == 0

/-- The instant `s` seconds and `ns` nanoseconds after the Unix epoch, in UTC; the
nanoseconds may be out of range and carry into the seconds. -/
def ofUnix (s : Int) (ns : Int) : Instant :=
  let q := ns / 1000000000
  let r := ns % 1000000000
  ⟨s + q + unixEpochSec, r.toNat, 0⟩

/-- Seconds since the Unix epoch. -/
def unixSec (t : Instant) : Int := t.sec - unixEpochSec

/-- The same moment shown in the zone of offset `off`. -/
def inZone (t : Instant) (off : Int) : Instant := { t with offset := off }

/-- The same moment shown in UTC. -/
def utc (t : Instant) : Instant := t.inZone 0

/-- Whether two instants are the same moment. -/
def same (t u : Instant) : Bool := t.sec == u.sec && t.nsec == u.nsec

/-- Whether `t` is strictly before `u`. -/
def before (t u : Instant) : Bool := t.sec < u.sec || (t.sec == u.sec && t.nsec < u.nsec)

/-- Whether `t` is strictly after `u`. -/
def after (t u : Instant) : Bool := u.before t

/-- The largest and smallest 64-bit second counts. -/
def secMax : Int := Int.pow 2 63 - 1
def secMin : Int := -(Int.pow 2 63 - 1)

/-- Adds `d` seconds, saturating at the ends of the 64-bit range. -/
def addSec (s d : Int) : Int :=
  let sum := Int64.ofInt (s + d) |>.toInt
  if (sum > s) == (d > 0) then sum
  else if d > 0 then secMax else secMin

/-- The instant `d` after `t`, in the zone of `t`. -/
def add (t : Instant) (d : Duration) : Instant :=
  let dv := d.toInt
  let dsec := dv.tdiv 1000000000
  let n : Int := t.nsec + dv.tmod 1000000000
  let (dsec, n) := if n ≥ 1000000000 then (dsec + 1, n - 1000000000)
    else if n < 0 then (dsec - 1, n + 1000000000) else (dsec, n)
  { t with sec := addSec t.sec dsec, nsec := n.toNat }

/-- The duration from `u` to `t`; the smallest or largest duration when it does not fit. -/
def sub (t u : Instant) : Duration :=
  let ds := Int64.ofInt (t.sec - u.sec)
  let d : Duration := ⟨ds * 1000000000 + Int64.ofInt ((t.nsec : Int) - u.nsec)⟩
  if (u.add d).same t then d
  else if t.before u then Duration.min
  else Duration.max

/-! ### Calendar -/

/-- A calendar date and clock time. -/
structure Civil where
  year : Int
  month : Nat
  day : Nat
  hour : Nat
  minute : Nat
  second : Nat
  nsec : Nat
  deriving DecidableEq, Repr

/-- Days from `1970-01-01` to the given date (month `1 … 12`). -/
def daysFromCivil (y : Int) (m : Nat) (d : Nat) : Int :=
  let y := if m ≤ 2 then y - 1 else y
  let era := y / 400
  let yoe := y - era * 400
  let mp : Int := if m > 2 then (m : Int) - 3 else (m : Int) + 9
  let doy := (153 * mp + 2) / 5 + d - 1
  let doe := yoe * 365 + yoe / 4 - yoe / 100 + doy
  era * 146097 + doe - 719468

/-- The date `days` after `1970-01-01`, as year, month and day. -/
def civilFromDays (days : Int) : Int × Nat × Nat :=
  let z := days + 719468
  let era := z / 146097
  let doe := z - era * 146097
  let yoe := (doe - doe / 1460 + doe / 36524 - doe / 146096) / 365
  let y := yoe + era * 400
  let doy := doe - (365 * yoe + yoe / 4 - yoe / 100)
  let mp := (5 * doy + 2) / 153
  let d := doy - (153 * mp + 2) / 5 + 1
  let m := if mp < 10 then mp + 3 else mp - 9
  let y := if m ≤ 2 then y + 1 else y
  (y, m.toNat, d.toNat)

/-- Whether a year is a leap year. -/
def isLeap (y : Int) : Bool := y % 4 == 0 && (y % 100 != 0 || y % 400 == 0)

/-- The number of days in a month of a year. -/
def daysIn (m : Nat) (y : Int) : Nat :=
  if m = 2 then (if isLeap y then 29 else 28)
  else if m = 4 ∨ m = 6 ∨ m = 9 ∨ m = 11 then 30 else 31

/-- The calendar date and clock time of an instant in its own zone. -/
def civil (t : Instant) : Civil :=
  let wall := t.sec + t.offset
  let days := wall / 86400
  let sod := (wall % 86400).toNat
  let (y, m, d) := civilFromDays (days - 719162)
  ⟨y, m, d, sod / 3600, sod % 3600 / 60, sod % 60, t.nsec⟩

/-! ### Building an instant from a date, in 64-bit arithmetic -/

/-- The value of an integer in 64-bit two's complement arithmetic. -/
def wrap64 (x : Int) : Int := (x + Int.pow 2 63) % Int.pow 2 64 - Int.pow 2 63

/-- The value of an integer as an unsigned 64-bit number. -/
def unsigned64 (x : Int) : Int := x % Int.pow 2 64

/-- Carries a low field into a high one so that the low one lies in `[0, base)`, in 64-bit
arithmetic. -/
def carry (hi lo base : Int) : Int × Int :=
  let (hi, lo) :=
    if lo < 0 then
      let n := (wrap64 (wrap64 (-lo) - 1)).tdiv base + 1
      (wrap64 (hi - n), wrap64 (lo + wrap64 (n * base)))
    else (hi, lo)
  if lo ≥ base then
    let n := lo.tdiv base
    (wrap64 (hi + n), wrap64 (lo - wrap64 (n * base)))
  else (hi, lo)

/-- Years from the calendar's zero point, the first of March of year `-292277022400`, to year
zero: a multiple of 400, so that the calendar's cycles start there. -/
def zeroYears : Int := 292277022400

/-- Days from the calendar's zero point to `1970-01-01`. -/
def zeroToUnixDays : Int := zeroYears * 365 + zeroYears / 4 - zeroYears / 100 + zeroYears / 400 + 306 + 719162

/-- Days from the calendar's zero point to a date, as an unsigned 64-bit number; the day may be
out of its month's range, and counts on from the month's first day. -/
def zeroDays (year : Int) (month : Nat) (day : Int) : Int :=
  let janFeb : Nat := if month < 3 then 1 else 0
  let amonth := month + 12 * janFeb
  let y := unsigned64 (unsigned64 year - janFeb + zeroYears)
  let ayday := ((979 * amonth - 2919) % Nat.pow 2 32) / 32
  let century := y / 100
  let cyear := (y % 100).toNat
  let cday := (1461 * cyear % Nat.pow 2 32) / 4
  let centuryDays := unsigned64 (146097 * century) / 4
  unsigned64 (centuryDays + wrap64 (wrap64 ((cday + ayday : Nat) + day) - 1))

/-- The instant of a date and time read in the zone of offset `off`. Every field may be out of
range and carries into the next larger one, as "the 32nd of January" is "the 1st of February";
the arithmetic is that of 64-bit integers, so that far out of range a field wraps around, and
the seconds of the result are taken in 64 bits too. -/
def ofCivil (year : Int) (month : Int) (day hour minute second nsec : Int) (off : Int) :
    Instant :=
  let (year, m) := carry year (month - 1) 12
  let month := (m + 1).toNat
  let (second, nsec) := carry second nsec 1000000000
  let (minute, second) := carry minute second 60
  let (hour, minute) := carry hour minute 60
  let (day, hour) := carry day hour 24
  let days := zeroDays year month day
  let unix := wrap64 (wrap64 (wrap64 days * 86400) + wrap64 (hour * 3600 + minute * 60 + second) -
    zeroToUnixDays * 86400)
  let unix := if off = 0 then unix else wrap64 (unix - off)
  ⟨wrap64 (unix + unixEpochSec), nsec.toNat, off⟩

end Instant

end QuotaWatch
