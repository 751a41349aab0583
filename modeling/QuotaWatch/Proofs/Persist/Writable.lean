import QuotaWatch.Persist.Store
/-!
**Which states can be written.**

Encoding a state fails on a timestamp with no RFC 3339 form or a double that is not finite, and
then nothing is written. Encoding succeeds exactly on states that `AppState.writable` accepts. A
timestamp is writable when its local year has four digits and its offset is under a day: a time
with an offset of a whole day, which reading accepts, cannot be saved.

Main definitions:

* `Instant.writable`, `floatWritable` — a timestamp with an RFC 3339 form, a finite double;
* `Window.writable`, `Snapshot.writable`, `Account.writable`, `AppState.writable` and the
  records' — every leaf of a value writable.

Main results:

* `Instant.writable_iff` — a timestamp is writable when its local year has four digits and its
  offset is under a day;
* `AppState.toDoc_isOk`, `encodeStateFile_isOk` — **the state file's text exists exactly for a
  writable state**;
* `Store.save_of_not_writable` — a state that is not writable is never saved;
* `day_offset_state_not_saved` — a reading with an offset of a whole day cannot be saved.
-/

namespace QuotaWatch

/-! ### The leaves -/

/-- Whether an instant has an RFC 3339 form. -/
def Instant.writable (t : Instant) : Bool := t.rfc3339Problem.isNone

/-- Whether a double has a document form: it is finite. -/
def floatWritable (x : Float) : Bool := !(x.isNaN || x.isInf)

/-- An instant has an RFC 3339 form exactly when its local year is in `0 … 9999` and its offset
is less than a day either way. -/
theorem Instant.writable_iff (t : Instant) :
    t.writable = true ↔ (0 ≤ t.civil.year ∧ t.civil.year ≤ 9999) ∧ t.offset.natAbs < 86400 := by
  unfold writable rfc3339Problem
  dsimp only
  split
  · simp only [Option.isNone_some, Bool.false_eq_true, false_iff]
    omega
  · split
    · simp only [Option.isNone_some, Bool.false_eq_true, false_iff]
      omega
    · simp only [Option.isNone_none, true_iff]
      omega

theorem Instant.toDoc_isOk (t : Instant) (optional : Bool) :
    (t.toDoc optional).isOk = t.writable := by
  unfold toDoc writable
  cases t.rfc3339Problem <;> rfl

theorem floatDoc_isOk (x : Float) : (floatDoc x).isOk = floatWritable x := by
  unfold floatDoc floatWritable
  cases x.isNaN || x.isInf <;> rfl

/-! ### Optional members, lists and tables -/

theorem optMember_isOk {α : Type} (name : String) (v : Option α) (f : α → Except EncodeError Json) :
    (optMember name v f).isOk = v.all fun a => (f a).isOk := by
  cases v with
  | none => rfl
  | some a =>
    show (do return [(name, ← f a)] : Except EncodeError _).isOk = (f a).isOk
    cases f a <;> rfl

theorem mapM_isOk {α β : Type} (f : α → Except EncodeError β) (l : List α) :
    (l.mapM f).isOk = l.all fun a => (f a).isOk := by
  induction l with
  | nil => rfl
  | cons a l ih =>
    rw [List.mapM_cons, List.all_cons, ← ih]
    cases f a <;> cases l.mapM f <;> rfl

theorem tableMember_isOk {α : Type} (name : String) (t : Table α) (f : α → Except EncodeError Json) :
    (tableMember name t f).isOk = t.entries.all fun e => (f e.2).isOk := by
  unfold tableMember Table.toDoc Table.isEmpty
  cases hemp : t.entries.isEmpty
  · -- the entries are read off one by one, each as its value
    have hentry : ∀ e : String × α,
        ((fun (kv : String × α) => (do return (kv.1, ← f kv.2) : Except EncodeError (String × Json))) e).isOk =
          (f e.2).isOk := fun e => by dsimp only; cases f e.2 <;> rfl
    rw [if_neg (by simp), ← funext hentry, ← mapM_isOk]
    cases t.entries.mapM fun kv => (do return (kv.1, ← f kv.2) : Except EncodeError (String × Json)) <;> rfl
  · rw [List.isEmpty_iff.1 hemp]
    rfl

/-! ### The records -/

/-- Whether every leaf of a window has a document form. -/
def Window.writable (w : Window) : Bool := w.resetsAt.writable && floatWritable w.usedPercent

/-- Whether every leaf of a snapshot has a document form. -/
def Snapshot.writable (s : Snapshot) : Bool :=
  s.capturedAt.writable && s.fiveHour.writable && s.weekly.writable

/-- Whether every leaf of an account has a document form. -/
def Account.writable (a : Account) : Bool :=
  a.lastSnapshot.all Snapshot.writable && a.lastUpdated.all Instant.writable

/-- Whether every time of a forced-refresh record has a document form. -/
def ForcedRefreshRecord.writable (r : ForcedRefreshRecord) : Bool :=
  r.lastAttempt.all Instant.writable && r.lastFailure.all Instant.writable &&
    r.lastSuccess.all Instant.writable

/-- Whether every time of a daily-hello record has a document form. -/
def DailyHelloRecord.writable (r : DailyHelloRecord) : Bool :=
  r.dayAnchor.all Instant.writable && r.lastRun.all Instant.writable

/-- Whether the time of a reminder record has a document form. -/
def ReminderRecord.writable (r : ReminderRecord) : Bool := r.lastNotified.all Instant.writable

/-- Whether every leaf of a state has a document form; level marks hold only whole numbers. -/
def AppState.writable (s : AppState) : Bool :=
  s.lastRefresh.all Instant.writable && s.forcedRefresh.entries.all (·.2.writable) &&
    s.dailyHello.entries.all (·.2.writable) && s.reminders.entries.all (·.2.writable) &&
    s.accounts.all Account.writable

theorem Window.toDoc_isOk (w : Window) : w.toDoc.isOk = w.writable := by
  rw [writable, ← Instant.toDoc_isOk w.resetsAt false, ← floatDoc_isOk]
  unfold toDoc
  cases w.resetsAt.toDoc false <;> cases floatDoc w.usedPercent <;> rfl

theorem Snapshot.toDoc_isOk (s : Snapshot) : s.toDoc.isOk = s.writable := by
  rw [writable, ← Instant.toDoc_isOk s.capturedAt false, ← Window.toDoc_isOk, ← Window.toDoc_isOk]
  unfold toDoc
  cases s.capturedAt.toDoc false <;> cases s.fiveHour.toDoc <;> cases s.weekly.toDoc <;> rfl

theorem Account.toDoc_isOk (a : Account) : a.toDoc.isOk = a.writable := by
  have hsnap := optMember_isOk "lastSnapshot" a.lastSnapshot Snapshot.toDoc
  have hupd := optMember_isOk "lastUpdated" a.lastUpdated (Instant.toDoc true)
  simp only [Snapshot.toDoc_isOk, Instant.toDoc_isOk] at hsnap hupd
  rw [writable, ← hsnap, ← hupd]
  unfold toDoc
  cases optMember "lastSnapshot" a.lastSnapshot Snapshot.toDoc <;>
    cases optMember "lastUpdated" a.lastUpdated (Instant.toDoc true) <;> rfl

/-- An optional time member has a document form exactly when its time has one. -/
theorem optTime_isOk (name : String) (v : Option Instant) :
    (optMember name v (Instant.toDoc true)).isOk = v.all Instant.writable := by
  simp only [optMember_isOk, Instant.toDoc_isOk]

theorem ForcedRefreshRecord.toDoc_isOk (r : ForcedRefreshRecord) : r.toDoc.isOk = r.writable := by
  rw [writable, ← optTime_isOk "lastAttempt", ← optTime_isOk "lastFailure",
    ← optTime_isOk "lastSuccess"]
  unfold toDoc
  cases optMember "lastAttempt" r.lastAttempt (Instant.toDoc true) <;>
    cases optMember "lastFailure" r.lastFailure (Instant.toDoc true) <;>
    cases optMember "lastSuccess" r.lastSuccess (Instant.toDoc true) <;> rfl

theorem DailyHelloRecord.toDoc_isOk (r : DailyHelloRecord) : r.toDoc.isOk = r.writable := by
  rw [writable, ← optTime_isOk "dayAnchor", ← optTime_isOk "lastRun"]
  unfold toDoc
  cases optMember "dayAnchor" r.dayAnchor (Instant.toDoc true) <;>
    cases optMember "lastRun" r.lastRun (Instant.toDoc true) <;> rfl

theorem ReminderRecord.toDoc_isOk (r : ReminderRecord) : r.toDoc.isOk = r.writable := by
  rw [writable, ← optTime_isOk "lastNotified"]
  unfold toDoc
  cases optMember "lastNotified" r.lastNotified (Instant.toDoc true) <;> rfl

/-- A level mark always has a document form. -/
theorem LevelMark.toDoc_isOk (m : LevelMark) : m.toDoc.isOk = true := by
  unfold toDoc optMember
  cases m.fiveHour <;> rfl

/-! ### The state -/

theorem AppState.toDoc_isOk (s : AppState) : s.toDoc.isOk = s.writable := by
  -- the active email and the ledger always have a document form
  obtain ⟨la, hla⟩ : ∃ l, optMember "activeEmail" s.activeEmail (fun e => .ok (Json.str e)) = .ok l := by
    cases s.activeEmail <;> exact ⟨_, rfl⟩
  obtain ⟨ll, hll⟩ : ∃ l, tableMember "notificationLedger" s.ledger LevelMark.toDoc = .ok l := by
    have h := tableMember_isOk "notificationLedger" s.ledger LevelMark.toDoc
    simp only [LevelMark.toDoc_isOk] at h
    cases hx : tableMember "notificationLedger" s.ledger LevelMark.toDoc with
    | ok l => exact ⟨l, rfl⟩
    | error e => simp [hx, Except.isOk, Except.toBool] at h
  have hfrr := tableMember_isOk "forcedRefreshRecords" s.forcedRefresh ForcedRefreshRecord.toDoc
  have hdhr := tableMember_isOk "dailyHelloRecords" s.dailyHello DailyHelloRecord.toDoc
  have hwrr := tableMember_isOk "weeklyReminderRecords" s.reminders ReminderRecord.toDoc
  have haccs := mapM_isOk Account.toDoc s.accounts
  simp only [ForcedRefreshRecord.toDoc_isOk, DailyHelloRecord.toDoc_isOk, ReminderRecord.toDoc_isOk,
    Account.toDoc_isOk] at hfrr hdhr hwrr haccs
  rw [writable, ← optTime_isOk "lastRefresh", ← hfrr, ← hdhr, ← hwrr, ← haccs]
  unfold toDoc
  rw [hla, hll]
  -- the other members are encoded one after another, and the first failure is the state's
  cases optMember "lastRefresh" s.lastRefresh (Instant.toDoc true) <;>
    cases tableMember "forcedRefreshRecords" s.forcedRefresh ForcedRefreshRecord.toDoc <;>
    cases tableMember "dailyHelloRecords" s.dailyHello DailyHelloRecord.toDoc <;>
    cases tableMember "weeklyReminderRecords" s.reminders ReminderRecord.toDoc <;>
    cases s.accounts.mapM Account.toDoc <;> rfl

/-- **The state file's text exists exactly for a writable state.** -/
theorem encodeStateFile_isOk (s : AppState) : (encodeStateFile s).isOk = s.writable := by
  rw [← AppState.toDoc_isOk]
  unfold encodeStateFile
  cases s.toDoc <;> rfl

/-- **A state that is not writable is never saved**: the save fails with the encoding's
complaint, whatever the tree holds. -/
theorem Store.save_of_not_writable (s : Store) (t : FileTree) (now : Instant) {st : AppState}
    (h : st.writable = false) : ∃ e : EncodeError, s.save t now st = .error (.failedToWrite e.message) := by
  rw [← encodeStateFile_isOk] at h
  cases henc : encodeStateFile st with
  | error e => exact ⟨e, by simp only [save, saveWith, henc]⟩
  | ok text => rw [henc] at h; cases h

/-- A state whose only time is local `2025-01-15T10:00:00` at an offset of `+24:00`: its year is
in range, reading accepts the timestamp, and the save fails. -/
theorem day_offset_state_not_saved :
    let t : Instant := ⟨63872445600, 0, 86400⟩
    let st : AppState := { accounts := [{ email := "a@x.com", ordinal := 1 }], lastRefresh := some t }
    (0 ≤ t.civil.year ∧ t.civil.year ≤ 9999) ∧
      Instant.parseRfc3339Loose? "2025-01-15T10:00:00+24:00" = some t ∧
      (({ dir := ["d"] } : Store).save { entries := [(["d"], .dir Instant.zero)] }
        ⟨63872532000, 0, 0⟩ st).isOk = false := by
  decide +kernel

end QuotaWatch
