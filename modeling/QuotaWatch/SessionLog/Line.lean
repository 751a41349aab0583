import QuotaWatch.Json.Decode
import QuotaWatch.Quota.Window
/-!
**Usage events in session-log lines.**

A usage event is a JSON line of `type` `event_msg` whose `payload` has `type` `token_count` and a
`rate_limits` object, with an RFC 3339 `timestamp`. The readings `primary` (5-hour) and
`secondary` (weekly) each need `used_percent`, `window_minutes` and `resets_at` as numbers, or
are dropped while the event stays. Lines are screened first: one that does not hold both quoted
markers `"event_msg"` and `"token_count"` byte for byte is not decoded.
-/

namespace QuotaWatch

namespace SessionLog

/-- The rate-limit members of a payload, kept as written. -/
structure LimitsDoc where
  primary : Option Json := none
  secondary : Option Json := none
  deriving Inhabited

/-- The members of a payload. -/
structure PayloadDoc where
  type : String := ""
  rateLimits : Option LimitsDoc := none
  deriving Inhabited

/-- The members of a log line. -/
structure LineDoc where
  type : String := ""
  timestamp : String := ""
  payload : Option PayloadDoc := none
  deriving Inhabited

/-- The members of one reading, kept as written. -/
structure LimitDoc where
  usedPercent : Option Json := none
  windowMinutes : Option Json := none
  resetsAt : Option Json := none
  deriving Inhabited

/-- Keeps a member as written. -/
def keepRaw (_ : Field) (_ : Option Json) (j : Json) : Except DecodeError (Option Json) := .ok (some j)

def LimitsDoc.decode : Field → LimitsDoc → Json → Except DecodeError LimitsDoc :=
  decodeRecord [
    ("primary", fun f d j => do return { d with primary := ← keepRaw f d.primary j }),
    ("secondary", fun f d j => do return { d with secondary := ← keepRaw f d.secondary j })]
    "sessionlog" "logRateLimits"

def PayloadDoc.decode : Field → PayloadDoc → Json → Except DecodeError PayloadDoc :=
  decodeRecord [
    ("type", fun f d j => do return { d with type := ← Json.decodeString f "string" d.type j }),
    ("rate_limits", fun f d j => do return { d with rateLimits := ← decodeOpt LimitsDoc.decode f d.rateLimits j })]
    "sessionlog" "logPayload"

def LineDoc.decode : Field → LineDoc → Json → Except DecodeError LineDoc :=
  decodeRecord [
    ("type", fun f d j => do return { d with type := ← Json.decodeString f "string" d.type j }),
    ("timestamp", fun f d j => do return { d with timestamp := ← Json.decodeString f "string" d.timestamp j }),
    ("payload", fun f d j => do return { d with payload := ← decodeOpt PayloadDoc.decode f d.payload j })]
    "sessionlog" "logLine"

def LimitDoc.decode : Field → LimitDoc → Json → Except DecodeError LimitDoc :=
  decodeRecord [
    ("used_percent", fun f d j => do return { d with usedPercent := ← keepRaw f d.usedPercent j }),
    ("window_minutes", fun f d j => do return { d with windowMinutes := ← keepRaw f d.windowMinutes j }),
    ("resets_at", fun f d j => do return { d with resetsAt := ← keepRaw f d.resetsAt j })]
    "sessionlog" "logRateLimit"

/-- A member that is a number in the range of doubles. -/
def number? : Option Json → Option Float
  | some (.num lit) => Json.litFloat? lit
  | _ => none

/-- The whole part of a double, toward zero, and the rest with the same sign. -/
def splitWhole (x : Float) : Float × Float :=
  let w := if x ≥ 0 then x.floor else x.ceil
  (w, x - w)

/-- Seconds since the Unix epoch, with a fraction, as an instant in UTC: the whole seconds and
the fraction's nanoseconds are each truncated toward zero, and a negative fraction borrows a
second. -/
def instantOfEpoch (secs : Float) : Instant :=
  let (w, f) := splitWhole secs
  let s := Decimal.truncInt64 w
  let ns := Decimal.truncInt64 (f * 1000000000)
  let (s, ns) := if ns < 0 then (s - 1, ns + 1000000000) else (s, ns)
  ⟨(Int64.ofInt (s + Instant.unixEpochSec)).toInt, ns.toNat, 0⟩

/-- One reading, if all three numbers are present. -/
def rateLimitOf? (raw : Option Json) : Option RateLimit := do
  let j ← raw
  let d ← (LimitDoc.decode {} {} j).toOption
  let used ← number? d.usedPercent
  let minutes ← number? d.windowMinutes
  let resets ← number? d.resetsAt
  return ⟨instantOfEpoch resets, used, Decimal.truncInt64 minutes⟩

/-- Whether `needle` occurs in `hay`, byte for byte. -/
def containsBytes (hay needle : List UInt8) : Bool :=
  match needle with
  | [] => true
  | _ => go hay
where
  go : List UInt8 → Bool
    | [] => false
    | h :: t => needle.isPrefixOf (h :: t) || go t

/-- The two markers a usage line contains. -/
def eventMarker : List UInt8 := Utf8.bytesOf "\"event_msg\""
def payloadMarker : List UInt8 := Utf8.bytesOf "\"token_count\""

end SessionLog

open SessionLog in
/-- The usage event of a log line, if it is one. -/
def UsageEvent.ofLine? (line : List UInt8) : Option UsageEvent := do
  if !(containsBytes line eventMarker && containsBytes line payloadMarker) then none
  let j ← (Json.parseBytes line).toOption
  let d ← (LineDoc.decode {} {} j).toOption
  if d.type != "event_msg" then none
  let p ← d.payload
  if p.type != "token_count" then none
  let rl ← p.rateLimits
  if d.timestamp = "" then none
  let ts ← Instant.parseRfc3339Loose? d.timestamp
  return ⟨ts, rateLimitOf? rl.primary, rateLimitOf? rl.secondary⟩

end QuotaWatch
