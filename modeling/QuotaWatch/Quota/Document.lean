import QuotaWatch.Quota.Account
import QuotaWatch.Json.Decode
import QuotaWatch.Json.Print
/-!
**The state document.**

The state is a JSON document with members named after the fields. Writing omits absent optional
members and empty tables, and fails on a double that is not finite or a timestamp with no RFC
3339 form. Reading follows `QuotaWatch.Json.Decode`: a repeated member updates the record it
reads into, table entries start afresh, and accounts go into growable storage (`decodeStored`),
so a repeated `accounts` may find accounts of an earlier, longer one.
-/

namespace QuotaWatch

/-- Why a value has no document form. -/
inductive EncodeError where
  | notFinite (x : Float)
  /-- A timestamp with no RFC 3339 form, held by a member of the named type, and why. -/
  | badTime (typeName : String) (reason : String)
  deriving Inhabited

/-- The message of an encode error. -/
def EncodeError.message : EncodeError → String
  | .notFinite x => "json: unsupported value: " ++ Decimal.shortestText x .message
  | .badTime typeName reason =>
    "json: error calling MarshalJSON for type " ++ typeName ++ ": " ++ reason

/-- Why an instant has no RFC 3339 form: a year outside `0 … 9999`, or an offset of a day or
more. -/
def Instant.rfc3339Problem (t : Instant) : Option String :=
  let y := t.civil.year
  if y < 0 ∨ y > 9999 then some "year outside of range [0,9999]"
  else if t.offset.natAbs / 3600 ≥ 24 then some "timezone hour outside of range [0,23]"
  else none

/-- A timestamp member: RFC 3339 with fraction. An optional member (`optional`) is named as a
pointer in complaints. -/
def Instant.toDoc (optional : Bool) (t : Instant) : Except EncodeError Json :=
  match t.rfc3339Problem with
  | some reason => .error (.badTime (if optional then "*time.Time" else "time.Time") reason)
  | none => .ok (.str t.rfc3339)

/-- A double member, finite only. -/
def floatDoc (x : Float) : Except EncodeError Json :=
  if x.isNaN || x.isInf then .error (.notFinite x) else .ok (Json.ofFloat x)

/-- An optional member: present only with a value. -/
def optMember {α : Type} (name : String) (v : Option α) (f : α → Except EncodeError Json) :
    Except EncodeError (List (String × Json)) :=
  match v with
  | none => .ok []
  | some a => do return [(name, ← f a)]

/-- The document of a window. -/
def Window.toDoc (w : Window) : Except EncodeError Json := do
  return .obj [("resetsAt", ← w.resetsAt.toDoc false), ("kind", .str w.kind.name),
    ("usedPercent", ← floatDoc w.usedPercent), ("windowMinutes", .ofInt w.windowMinutes),
    ("isStale", .bool w.isStale), ("assumedReset", .bool w.assumedReset)]

/-- The document of a snapshot. -/
def Snapshot.toDoc (s : Snapshot) : Except EncodeError Json := do
  return .obj [("capturedAt", ← s.capturedAt.toDoc false), ("source", .str s.source),
    ("fiveHour", ← s.fiveHour.toDoc), ("weekly", ← s.weekly.toDoc)]

/-- The document of an account. -/
def Account.toDoc (a : Account) : Except EncodeError Json := do
  let snap ← optMember "lastSnapshot" a.lastSnapshot Snapshot.toDoc
  let upd ← optMember "lastUpdated" a.lastUpdated (Instant.toDoc true)
  let name := if a.displayName = "" then [] else [("displayName", Json.str a.displayName)]
  return .obj (snap ++ upd ++ [("email", .str a.email)] ++ name ++ [("codexNumber", .ofInt a.ordinal)])

/-- The document of a level mark. -/
def LevelMark.toDoc (m : LevelMark) : Except EncodeError Json := do
  let five ← optMember "fiveHour" m.fiveHour (fun l => .ok (Json.ofInt l.code))
  return .obj (five ++ [("weekly", .ofInt m.weekly.code)])

/-- The document of a forced-refresh record. -/
def ForcedRefreshRecord.toDoc (r : ForcedRefreshRecord) : Except EncodeError Json := do
  return .obj ((← optMember "lastAttempt" r.lastAttempt (Instant.toDoc true)) ++
    (← optMember "lastFailure" r.lastFailure (Instant.toDoc true)) ++
    (← optMember "lastSuccess" r.lastSuccess (Instant.toDoc true)))

/-- The document of a daily-hello record. -/
def DailyHelloRecord.toDoc (r : DailyHelloRecord) : Except EncodeError Json := do
  return .obj ((← optMember "dayAnchor" r.dayAnchor (Instant.toDoc true)) ++
    (← optMember "lastRun" r.lastRun (Instant.toDoc true)) ++ [("runCount", .ofInt r.runCount)])

/-- The document of a reminder record. -/
def ReminderRecord.toDoc (r : ReminderRecord) : Except EncodeError Json := do
  return .obj (← optMember "lastNotified" r.lastNotified (Instant.toDoc true))

/-- The document of a table, entries in name order. -/
def Table.toDoc {α : Type} (t : Table α) (f : α → Except EncodeError Json) :
    Except EncodeError Json := do
  return .obj (← t.entries.mapM fun (k, v) => do return (k, ← f v))

/-- A table member: present only when the table has entries. -/
def tableMember {α : Type} (name : String) (t : Table α) (f : α → Except EncodeError Json) :
    Except EncodeError (List (String × Json)) :=
  if t.isEmpty then .ok [] else do return [(name, ← t.toDoc f)]

/-- The document of a state. -/
def AppState.toDoc (s : AppState) : Except EncodeError Json := do
  let act ← optMember "activeEmail" s.activeEmail (fun e => .ok (Json.str e))
  let lr ← optMember "lastRefresh" s.lastRefresh (Instant.toDoc true)
  let led ← tableMember "notificationLedger" s.ledger LevelMark.toDoc
  let frr ← tableMember "forcedRefreshRecords" s.forcedRefresh ForcedRefreshRecord.toDoc
  let dhr ← tableMember "dailyHelloRecords" s.dailyHello DailyHelloRecord.toDoc
  let wrr ← tableMember "weeklyReminderRecords" s.reminders ReminderRecord.toDoc
  let accs ← s.accounts.mapM Account.toDoc
  return .obj (act ++ lr ++ led ++ frr ++ dhr ++ wrr ++ [("accounts", .arr accs)])

/-! ### Reading -/

/-- Reads an object into a table, each entry from a fresh value. -/
def decodeTable {α : Type} [Inhabited α] (expected : String) (item : Field → α → Json → Except DecodeError α)
    (at_ : Field) (cur : Table α) (j : Json) : Except DecodeError (Table α) := do
  match ← Json.members at_ expected j with
  | none => return {}
  | some ms => ms.foldlM (fun t (k, v) => do return t.set k (← item at_ default v)) cur

/-- Reads a timestamp member. -/
def decodeInstant (_ : Field) (cur : Instant) (j : Json) : Except DecodeError Instant :=
  Json.decodeInstantRaw cur j

/-- Reads a window. -/
def Window.decode : Field → Window → Json → Except DecodeError Window :=
  decodeRecord [
    ("resetsAt", fun f w j => do return { w with resetsAt := ← decodeInstant f w.resetsAt j }),
    ("kind", fun f w j => do
      return { w with kind := .ofName (← Json.decodeString f "models.WindowKind" w.kind.name j) }),
    ("usedPercent", fun f w j => do return { w with usedPercent := ← Json.decodeFloat f w.usedPercent j }),
    ("windowMinutes", fun f w j => do
      return { w with windowMinutes := ← Json.decodeInt f "int" w.windowMinutes j }),
    ("isStale", fun f w j => do return { w with isStale := ← Json.decodeBool f w.isStale j }),
    ("assumedReset", fun f w j => do return { w with assumedReset := ← Json.decodeBool f w.assumedReset j })]
    "models" "UsageWindow"

/-- Reads a snapshot. -/
def Snapshot.decode : Field → Snapshot → Json → Except DecodeError Snapshot :=
  decodeRecord [
    ("capturedAt", fun f s j => do return { s with capturedAt := ← decodeInstant f s.capturedAt j }),
    ("source", fun f s j => do return { s with source := ← Json.decodeString f "models.SnapshotSource" s.source j }),
    ("fiveHour", fun f s j => do return { s with fiveHour := ← Window.decode f s.fiveHour j }),
    ("weekly", fun f s j => do return { s with weekly := ← Window.decode f s.weekly j })]
    "models" "QuotaSnapshot"

/-- Reads an account. -/
def Account.decode : Field → Account → Json → Except DecodeError Account :=
  decodeRecord [
    ("lastSnapshot", fun f a j => do return { a with lastSnapshot := ← decodeOpt Snapshot.decode f a.lastSnapshot j }),
    ("lastUpdated", fun f a j => do return { a with lastUpdated := ← decodeOpt decodeInstant f a.lastUpdated j }),
    ("email", fun f a j => do return { a with email := ← Json.decodeString f "string" a.email j }),
    ("displayName", fun f a j => do return { a with displayName := ← Json.decodeString f "string" a.displayName j }),
    ("codexNumber", fun f a j => do return { a with ordinal := ← Json.decodeInt f "int" a.ordinal j })]
    "models" "Account"

/-- Reads a level code. -/
def decodeLevel (f : Field) (cur : Level) (j : Json) : Except DecodeError Level := do
  return ⟨← Json.decodeInt f "models.ThresholdLevel" cur.code j⟩

/-- Reads a level mark. -/
def LevelMark.decode : Field → LevelMark → Json → Except DecodeError LevelMark :=
  decodeRecord [
    ("fiveHour", fun f m j => do return { m with fiveHour := ← decodeOpt decodeLevel f m.fiveHour j }),
    ("weekly", fun f m j => do return { m with weekly := ← decodeLevel f m.weekly j })]
    "models" "ThresholdSnapshot"

/-- Reads a forced-refresh record. -/
def ForcedRefreshRecord.decode : Field → ForcedRefreshRecord → Json → Except DecodeError ForcedRefreshRecord :=
  decodeRecord [
    ("lastAttempt", fun f r j => do return { r with lastAttempt := ← decodeOpt decodeInstant f r.lastAttempt j }),
    ("lastFailure", fun f r j => do return { r with lastFailure := ← decodeOpt decodeInstant f r.lastFailure j }),
    ("lastSuccess", fun f r j => do return { r with lastSuccess := ← decodeOpt decodeInstant f r.lastSuccess j })]
    "models" "ForcedRefreshRecord"

/-- Reads a daily-hello record. -/
def DailyHelloRecord.decode : Field → DailyHelloRecord → Json → Except DecodeError DailyHelloRecord :=
  decodeRecord [
    ("dayAnchor", fun f r j => do return { r with dayAnchor := ← decodeOpt decodeInstant f r.dayAnchor j }),
    ("lastRun", fun f r j => do return { r with lastRun := ← decodeOpt decodeInstant f r.lastRun j }),
    ("runCount", fun f r j => do return { r with runCount := ← Json.decodeInt f "int" r.runCount j })]
    "models" "DailyHelloRecord"

/-- Reads a reminder record. -/
def ReminderRecord.decode : Field → ReminderRecord → Json → Except DecodeError ReminderRecord :=
  decodeRecord [
    ("lastNotified", fun f r j => do return { r with lastNotified := ← decodeOpt decodeInstant f r.lastNotified j })]
    "models" "WeeklyReminderRecord"

/-- A state being read, with the storage its accounts are read into. -/
structure StateDraft where
  state : AppState := {}
  accounts : Stored Account := {}
  deriving Inhabited

/-- The bytes an account takes in an array: two pointers, two texts and a whole number. -/
def accountSize : Nat := 56

/-- Reads a state into a draft. -/
def StateDraft.decode : Field → StateDraft → Json → Except DecodeError StateDraft :=
  decodeRecord [
    ("activeEmail", fun f d j => do
      let v ← decodeOpt (fun f c j => Json.decodeString f "string" c j) f d.state.activeEmail j
      return { d with state := { d.state with activeEmail := v } }),
    ("lastRefresh", fun f d j => do
      let v ← decodeOpt decodeInstant f d.state.lastRefresh j
      return { d with state := { d.state with lastRefresh := v } }),
    ("notificationLedger", fun f d j => do
      let v ← decodeTable "map[string]models.ThresholdSnapshot" LevelMark.decode f d.state.ledger j
      return { d with state := { d.state with ledger := v } }),
    ("forcedRefreshRecords", fun f d j => do
      let v ← decodeTable "map[string]models.ForcedRefreshRecord" ForcedRefreshRecord.decode f
        d.state.forcedRefresh j
      return { d with state := { d.state with forcedRefresh := v } }),
    ("dailyHelloRecords", fun f d j => do
      let v ← decodeTable "map[string]models.DailyHelloRecord" DailyHelloRecord.decode f
        d.state.dailyHello j
      return { d with state := { d.state with dailyHello := v } }),
    ("weeklyReminderRecords", fun f d j => do
      let v ← decodeTable "map[string]models.WeeklyReminderRecord" ReminderRecord.decode f
        d.state.reminders j
      return { d with state := { d.state with reminders := v } }),
    ("accounts", fun f d j => do
      let st ← decodeStored accountSize "[]models.Account" Account.decode f d.accounts j
      return { d with accounts := st, state := { d.state with accounts := st.items } })]
    "models" "AppState"

/-- Reads a state into `s`, whose accounts fill their storage. -/
def AppState.decode (f : Field) (s : AppState) (j : Json) : Except DecodeError AppState :=
  (·.state) <$> StateDraft.decode f { state := s, accounts := ⟨s.accounts, s.accounts.length⟩ } j

/-- A stored text as a state: the document must be well formed and of the state's shape. -/
def AppState.ofBytes (bs : List UInt8) : Except DecodeError AppState :=
  match Json.parseBytes bs with
  | .error e => .error (.malformed e)
  | .ok j => AppState.decode {} {} j

end QuotaWatch
