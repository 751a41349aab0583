import QuotaWatch.Time.Instant
/-!
**Locations: the zone in force at each instant, and wall-clock times read in a location.**

A location is a place's rule for local time. At each instant one zone is in force there, with its
offset from UTC and the span of seconds it holds over; a change of zone moves the clocks forward
over a gap, or back over wall times that then come twice. A clock reading is shown in the zone in
force at it.

A wall-clock date and time names an instant in a location: the wall time is read as UTC, then
moved back by the offset in force at that reading, or, when the instant so found lies outside the
span of that zone, by the offset in force at that instant. A wall time in a gap or in a repeated
hour so comes out in one of the zones around the change.

* `Zone`, `Location` — a zone in force, and the rule that gives it at each Unix second;
* `Location.fixed` — one offset at all times;
* `Location.date` — the instant a wall-clock date and time names in a location;
* `Location.Shows` — an instant shown in the zone its location has in force at it;
* `Location.dayAt`, `Location.DatesForward` — the local day at a second, and the locations whose
  local days never go back as time goes on: no change of zone moves their clocks back across
  midnight.
-/

namespace QuotaWatch

/-- A zone in force: its offset from UTC in seconds, and the span `[start, stop)` of Unix seconds
over which it holds. -/
structure Zone where
  offset : Int
  start : Int
  stop : Int

/-- A place's rule for local time: the zone in force at each Unix second. -/
structure Location where
  lookup : Int → Zone

namespace Location

/-- One offset at all times: a zone that holds over every second of 64-bit time. -/
def fixed (off : Int) : Location := ⟨fun _ => ⟨off, -Int.pow 2 63, Int.pow 2 63 - 1⟩⟩

instance : Inhabited Location := ⟨fixed 0⟩

/-- The Unix second of an instant, in 64-bit arithmetic. -/
def unixOf (t : Instant) : Int := Instant.wrap64 (t.sec - Instant.unixEpochSec)

/-- The offset a location has in force at an instant. -/
def offsetAt (l : Location) (t : Instant) : Int := (l.lookup (unixOf t)).offset

/-- Whether an instant is shown in the zone its location has in force at it, as every reading of
a clock of that location is. -/
def Shows (l : Location) (t : Instant) : Prop := t.offset = l.offsetAt t

instance (l : Location) (t : Instant) : Decidable (l.Shows t) := inferInstanceAs (Decidable (_ = _))

/-- The instant a wall-clock date and time names in a location. Fields out of range carry, in
64-bit arithmetic, as in `Instant.ofCivil`; the wall time read as UTC is moved back by the offset
of the zone in force at it, unless the instant so found lies outside that zone's span, when it is
moved back by the offset in force at that instant. The result is shown in its own zone. -/
def date (l : Location) (year month day hour minute second nsec : Int) : Instant :=
  let w := Instant.ofCivil year month day hour minute second nsec 0
  let unix := unixOf w
  let z := l.lookup unix
  let utc := Instant.wrap64 (unix - z.offset)
  let off := if z.offset = 0 then 0
    else if utc < z.start ∨ z.stop ≤ utc then (l.lookup utc).offset else z.offset
  let unix := Instant.wrap64 (unix - off)
  ⟨Instant.wrap64 (unix + Instant.unixEpochSec), w.nsec, (l.lookup unix).offset⟩

/-- The local day at a second since `0001-01-01`: the number of days from `0001-01-01` to the
wall-clock date the location shows then. -/
def dayAt (l : Location) (sec : Int) : Int :=
  (sec + (l.lookup (Instant.wrap64 (sec - Instant.unixEpochSec))).offset) / 86400

/-- A location whose local days never go back as time goes on: no change of zone moves its
clocks back across midnight. -/
def DatesForward (l : Location) : Prop := ∀ a b, a ≤ b → l.dayAt a ≤ l.dayAt b

end Location

end QuotaWatch
