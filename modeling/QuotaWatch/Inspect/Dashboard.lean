import QuotaWatch.Inspect.Read
import QuotaWatch.Hud.Message
/-!
**The inspection form of the dashboard's board and messages.**

Notices are written with number, kind, message and lifetime in nanoseconds; the board with its
selection, refresh and loading flags and notices. A message is an object whose `msg` names it
(`size`, `key`, `refresh`, `refresh_done`, `tick`, `notify`, `remove_notification`, `tab`,
`toggle_help`, `history_loaded`, `service_error`, `select` or `other`), with its own members.
-/

namespace QuotaWatch.Hud

/-- A notice. -/
def Notice.toJson (n : Notice) : Json :=
  .obj [("id", .str n.id), ("type", .str n.kind.name), ("message", .str n.message),
    ("duration", .ofInt n.lifetime.toInt)]

/-- The board's selection, refresh and loading flags, and notices. -/
def Board.fields (b : Board) : List (String × Json) :=
  [("selected", .str b.selected), ("refreshing", .bool b.refreshing), ("loading", .bool b.loading),
    ("notifications", .arr (b.notices.map Notice.toJson))]

/-- A message in its JSON form. -/
def Msg.ofJson (st : Json) : Except String Msg := do
  let txt := fun (k : String) => st.strAt k ""
  match ← txt "msg" with
  | "size" => return .resize (← st.intAt "width" 80) (← st.intAt "height" 24)
  | "key" => return .key ⟨← txt "key"⟩
  | "refresh" => return .refresh
  | "refresh_done" => return .refreshDone ((← st.strAt? "error").map fun e =>
      if e = "in_progress" then .inProgress else .failed e)
  | "tick" => return .tick
  | "notify" => return .notify ⟨← st.intAt "type" 0⟩ (← txt "message") (← st.durationAt "duration" ⟨0⟩)
  | "remove_notification" => return .removeNotice (← txt "id")
  | "tab" => return .switchTab (← st.intAt "tab" 0)
  | "toggle_help" => return .toggleHelp
  | "history_loaded" =>
    let email ← txt "email"
    match ← st.strAt? "error" with
    | some e => return .historyLoaded email (.error e)
    | none => return .historyLoaded email (.ok (← SnapshotRecord.listAt st "records"))
  | "service_error" => return .service (.failed (← txt "service") (← txt "error"))
  | "select" => return .select (← txt "email")
  | "other" => return .other
  | m => throw ("unknown msg " ++ m)

end QuotaWatch.Hud
