import QuotaWatch.Proofs.State
/-!
**The stages of a refresh, one lemma each.**

A refresh loads, gathers (identity, usage, then settling), saves and publishes. Each stage's
effect on the state, the manager and the backend's log of observations is said once here, so
statements about whole refreshes are case analyses over these lemmas. Every stage only appends to
the log, where saved states appear as `Observation.saved`.

Main definitions:

* `savedStates` — the states a log of observations shows saved;
* `Backend.Extends` — a backend whose log only gains observations of some kind;
* `ForcedRecordsOnly`, `ForcedEffect` — what a forced refresh may change and show;
* `UsageRead`, `UsageFrame`, `UsageEffect` — what reading usage may do to the state, and show;
* `Manager.loaded`, `Manager.refreshSeen` — the state a refresh loads, and what it shows;
* `RefreshRun` — a run of refreshes, each loading the state the last one saved.

Main results:

* `Runner.forcedRefreshFor_effects` — a forced refresh touches only its own record;
* `Manager.ingest_cases`, `Manager.readUsage_spec` — reading usage, by its three outcomes;
* `Runner.weeklyReminders_spec`, `Manager.settle_spec` — settling, field by field;
* `Manager.gather_spec` — gathering, stage by stage;
* `Manager.publish_spec` — publishing keeps the result and only adds to the log;
* `Manager.refresh_cases`, `Manager.refresh_ok_spec` — a whole refresh, by its outcome;
* `RefreshRun.extend`, `RefreshRun.pair` — a refresh that loads what a run saved extends it.
-/

namespace QuotaWatch

/-! ### What the outside sees -/

/-- The states written to the store among some observations, in order. -/
def savedStates (obs : List Observation) : List AppState :=
  obs.filterMap fun
    | .saved st => some st
    | _ => none

@[simp] theorem savedStates_nil : savedStates [] = [] := rfl

@[simp] theorem savedStates_append (l l' : List Observation) :
    savedStates (l ++ l') = savedStates l ++ savedStates l' :=
  List.filterMap_append

@[simp] theorem savedStates_cons (o : Observation) (l : List Observation) :
    savedStates (o :: l) = savedStates [o] ++ savedStates l := by
  rw [← List.singleton_append, savedStates_append]

@[simp] theorem savedStates_saved (st : AppState) : savedStates [.saved st] = [st] := rfl

@[simp] theorem mem_savedStates {st : AppState} {obs : List Observation} :
    st ∈ savedStates obs ↔ .saved st ∈ obs := by
  simp only [savedStates, List.mem_filterMap]
  constructor
  · rintro ⟨o, ho, h⟩
    cases o <;> simp only [reduceCtorEq, Option.some.injEq] at h
    exact h ▸ ho
  · exact fun h => ⟨_, h, rfl⟩

namespace Backend

@[simp] theorem note_seen (b : Backend) (o : Observation) : (b.note o).seen = b.seen ++ [o] := rfl

@[simp] theorem note_store (b : Backend) (o : Observation) : (b.note o).store = b.store := rfl

/-- A save that succeeds writes the state's file and shows the state, nothing else. -/
theorem save_eq_ok {b b' : Backend} {now : Instant} {st : AppState} (h : b.save now st = .ok b') :
    b'.seen = b.seen ++ [.saved st] ∧ b'.store = b.store := by
  simp only [save] at h
  cases hs : b.store.save b.files now st with
  | error e => simp [hs, bind, Except.bind] at h
  | ok files =>
      simp only [hs, bind, Except.bind, pure, Except.pure, Except.ok.injEq] at h
      subst h
      exact ⟨rfl, rfl⟩

theorem recordRun_seen (b : Backend) (email kind : String) (err : Option String) (at_ stamp : Instant) :
    (b.recordRun email kind err at_ stamp).seen = b.seen ++ [.runStored
      { timestamp := at_, email, kind, outcome := if err.isSome then "failed" else "sent",
        detail := err.getD "" }] := by
  simp only [recordRun]
  split
  · rfl
  · split <;> rfl

@[simp] theorem recordRun_store (b : Backend) (email kind : String) (err : Option String)
    (at_ stamp : Instant) : (b.recordRun email kind err at_ stamp).store = b.store := by
  simp only [recordRun]
  split
  · rfl
  · split <;> rfl

theorem recordSnapshot_seen (b : Backend) (r : SnapshotRecord) (stamp : Instant) :
    ∃ id, (b.recordSnapshot r stamp).seen = b.seen ++ [.snapshotStored { r with id }] := by
  simp only [recordSnapshot]
  split
  · exact ⟨r.id, rfl⟩
  · split
    · exact ⟨_, rfl⟩
    · exact ⟨r.id, rfl⟩

@[simp] theorem recordSnapshot_store (b : Backend) (r : SnapshotRecord) (stamp : Instant) :
    (b.recordSnapshot r stamp).store = b.store := by
  simp only [recordSnapshot]
  split
  · rfl
  · split <;> rfl

/-- `b'` is `b` with the same store and observations added, each of which satisfies `P`. -/
def Extends (P : Observation → Prop) (b b' : Backend) : Prop :=
  b'.store = b.store ∧ ∃ new, b'.seen = b.seen ++ new ∧ ∀ x ∈ new, P x

namespace Extends

variable {P : Observation → Prop} {b b₁ b₂ : Backend}

theorem refl (b : Backend) : Extends P b b := ⟨rfl, [], by simp, by simp⟩

theorem trans (h₁ : Extends P b b₁) (h₂ : Extends P b₁ b₂) : Extends P b b₂ := by
  obtain ⟨hs₁, new₁, hn₁, hp₁⟩ := h₁
  obtain ⟨hs₂, new₂, hn₂, hp₂⟩ := h₂
  refine ⟨hs₂.trans hs₁, new₁ ++ new₂, by simp [hn₂, hn₁], ?_⟩
  intro x hx
  rcases List.mem_append.1 hx with hx | hx
  · exact hp₁ x hx
  · exact hp₂ x hx

theorem mono {Q : Observation → Prop} (h : Extends P b b₁) (hPQ : ∀ x, P x → Q x) :
    Extends Q b b₁ := by
  obtain ⟨hs, new, hn, hp⟩ := h
  exact ⟨hs, new, hn, fun x hx => hPQ x (hp x hx)⟩

theorem note (h : Extends P b b₁) {x : Observation} (hx : P x) : Extends P b (b₁.note x) :=
  h.trans ⟨rfl, [x], rfl, by simpa using hx⟩

theorem save (h : Extends P b b₁) {now : Instant} {st : AppState} (hs : b₁.save now st = .ok b₂)
    (hx : P (.saved st)) : Extends P b b₂ := by
  obtain ⟨hseen, hstore⟩ := save_eq_ok hs
  exact h.trans ⟨hstore, [.saved st], hseen, by simpa using hx⟩

theorem recordRun (h : Extends P b b₁) {email kind : String} {err : Option String}
    {at_ stamp : Instant}
    (hx : ∀ run : AutomationRun, run.email = email → run.kind = kind → P (.runStored run)) :
    Extends P b (b₁.recordRun email kind err at_ stamp) :=
  h.trans ⟨recordRun_store .., _, recordRun_seen .., by simpa using hx _ rfl rfl⟩

theorem recordSnapshot (h : Extends P b b₁) {r : SnapshotRecord} {stamp : Instant}
    (hx : ∀ id, P (.snapshotStored { r with id })) : Extends P b (b₁.recordSnapshot r stamp) := by
  obtain ⟨id, hseen⟩ := recordSnapshot_seen b₁ r stamp
  exact h.trans ⟨recordSnapshot_store .., _, hseen, by simpa using hx id⟩

end Extends

end Backend

/-! ### Forced refreshes -/

/-- `st'` is `st` with its forced-refresh records changed at most at `email`. -/
def ForcedRecordsOnly (email : String) (st st' : AppState) : Prop :=
  ∃ t : Table ForcedRefreshRecord, st' = { st with forcedRefresh := t } ∧
    ∀ e, e ≠ email → t.get? e = st.forcedRefresh.get? e

namespace ForcedRecordsOnly

variable {email : String}

theorem refl (st : AppState) : ForcedRecordsOnly email st st := ⟨st.forcedRefresh, rfl, fun _ _ => rfl⟩

theorem set (st : AppState) (rec : ForcedRefreshRecord) :
    ForcedRecordsOnly email st { st with forcedRefresh := st.forcedRefresh.set email rec } :=
  ⟨_, rfl, fun _ h => Table.get?_set_of_ne _ _ h⟩

theorem trans {st st₁ st₂ : AppState} (h₁ : ForcedRecordsOnly email st st₁)
    (h₂ : ForcedRecordsOnly email st₁ st₂) : ForcedRecordsOnly email st st₂ := by
  obtain ⟨t₁, rfl, ht₁⟩ := h₁
  obtain ⟨t₂, rfl, ht₂⟩ := h₂
  exact ⟨t₂, rfl, fun e he => (ht₂ e he).trans (ht₁ e he)⟩

end ForcedRecordsOnly

/-- What a forced refresh of `email`, from the state `st`, may show: a save that changes only
that email's forced-refresh record, the message it sends, and its run in the history. -/
def ForcedEffect (email : String) (st : AppState) : Observation → Prop
  | .saved st' => ForcedRecordsOnly email st st'
  | .sent _ _ => True
  | .runStored run => run.email = email ∧ run.kind = "forcedRefresh"
  | _ => False

/-- **A forced refresh touches only its own record.** The state it leaves changes only the
forced-refresh record of its email, and everything it shows is one of its own effects: the
attempt saved before the message, the message, the outcome saved after it, and the run. -/
theorem Runner.forcedRefreshFor_effects (r : Runner) (s : Surroundings) (now : Instant) (b : Backend)
    (st : AppState) (email : String) (hasAuth : Bool) :
    ForcedRecordsOnly email st (r.forcedRefreshFor s now b st email hasAuth).2.1 ∧
      b.Extends (ForcedEffect email st) (r.forcedRefreshFor s now b st email hasAuth).1 := by
  simp only [Runner.forcedRefreshFor]
  generalize r.forced.decide r.thresholds now ((st.forcedRefresh.get? email).getD {}) hasAuth
    ((st.account? email).bind fun x => x.remaining .weekly) = d
  split
  · -- the gate blocks: nothing is saved or sent
    exact ⟨.refl st, .refl b⟩
  · have h₁ : ForcedRecordsOnly email st { st with forcedRefresh := st.forcedRefresh.set email d.record } :=
      .set st d.record
    cases hs₁ : b.save (s.clock .recordSave) { st with forcedRefresh := st.forcedRefresh.set email d.record } with
    | error e => exact ⟨h₁, .refl b⟩
    | ok b₁ =>
        -- the attempt is saved before the message goes out
        have e₁ : b.Extends (ForcedEffect email st) (b₁.note (.sent r.model r.prompt)) :=
          ((Backend.Extends.refl b).save hs₁ h₁).note trivial
        cases s.sendError <;>
        · refine ⟨h₁.trans (.set _ _), .recordRun ?_ fun run he hk => ⟨he, hk⟩⟩
          split
          · exact e₁.save ‹_› (h₁.trans (.set _ _))
          · exact e₁

/-! ### Reading usage -/

/-- A snapshot read from an event is fresh: neither window is assumed reset. -/
theorem Snapshot.ofEvent_fresh {ev : Option UsageEvent} {source : String} {snap : Snapshot}
    (h : Snapshot.ofEvent ev source = .ok snap) :
    snap.fiveHour.assumedReset = false ∧ snap.weekly.assumedReset = false := by
  unfold Snapshot.ofEvent at h
  split at h
  · cases h
    exact ⟨rfl, rfl⟩
  · cases h

namespace Manager

/-- **Reading usage, by its three outcomes.** After the source is asked, either the state is
left as it was (no event, an error, or nothing new), or an incomplete event runs a forced
refresh for the account, or a fresh snapshot that changes the account's is merged into the
account that `account?` finds and written to the history. -/
theorem ingest_cases (m : Manager) (s : Surroundings) (st : AppState) (acc : Account)
    (hasAuth : Bool) :
    let b := m.backend.note (.asked m.since)
    let o := m.ingest s st acc hasAuth
    (o.1 = { m with backend := b } ∧ o.2.1 = st ∧ o.2.2.updated = false) ∨
    (o.1 = { m with backend := (m.runner.forcedRefreshFor s (s.clock .forcedDecision) b st acc.email
        hasAuth).1 } ∧
      o.2.1 = (m.runner.forcedRefreshFor s (s.clock .forcedDecision) b st acc.email hasAuth).2.1 ∧
      o.2.2.updated = false) ∨
    (∃ snap : Snapshot, snap.fiveHour.assumedReset = false ∧ snap.weekly.assumedReset = false ∧
      (Snapshot.merge acc.lastSnapshot snap).2 = true ∧
      o.1 = { m with backend := (b.recordSnapshot
        (SnapshotRecord.ofSnapshot acc.email (Snapshot.merge acc.lastSnapshot snap).1)
        (s.clock .snapshotStamp)) } ∧
      o.2.1 = st.updateAccount acc.email (fun a =>
        { a with lastSnapshot := some (Snapshot.merge acc.lastSnapshot snap).1,
                 lastUpdated := some s.now }) ∧
      o.2.2.updated = true) := by
  simp only [ingest]
  split
  · exact .inl ⟨rfl, rfl, rfl⟩
  · split
    · exact .inl ⟨rfl, rfl, rfl⟩
    · exact .inl ⟨rfl, rfl, rfl⟩
    · split
      · exact .inr (.inl ⟨rfl, rfl, rfl⟩)
      · rename_i snap hsnap
        obtain ⟨hf, hw⟩ := Snapshot.ofEvent_fresh hsnap
        cases hc : (Snapshot.merge acc.lastSnapshot snap).2
        · exact .inl ⟨by simp, by simp, by simp⟩
        · exact .inr (.inr ⟨snap, hf, hw, hc, by simp, by simp, by simp⟩)

end Manager

/-! ### Settling: normalizing, evaluating and marking reminders -/

theorem decideGate_record_of_allowed {R : Type} {checks : List (Option BlockReason)} {record next : R}
    (h : (decideGate checks record next).reason = none) : (decideGate checks record next).record = next := by
  unfold decideGate at h ⊢
  split at h <;> simp_all

namespace Runner

/-- One reminder step: the reminder records change only at the email of the reminder it adds,
if it adds one, and that email's record then notes `now`. -/
theorem remindOne_spec (r : Runner) (loc : Location) (now : Instant)
    (acc : AppState × List ReminderEvent) (a : Account) :
    ∃ R more, r.remindOne loc now acc a = ({ acc.1 with reminders := R }, acc.2 ++ more) ∧
      (∀ e, e ∉ more.map (·.email) → R.get? e = acc.1.reminders.get? e) ∧
      ∀ rm ∈ more, R.get? rm.email = some { lastNotified := some now } := by
  obtain ⟨st, due⟩ := acc
  simp only [remindOne]
  split
  · exact ⟨st.reminders, [], by simp, fun _ _ => rfl, by simp⟩
  · split
    · exact ⟨st.reminders, [], by simp, fun _ _ => rfl, by simp⟩
    · rename_i hd
      refine ⟨_, [_], rfl, fun e he => Table.get?_set_of_ne _ _ (by simpa using he), ?_⟩
      -- an allowed decision stores the record that notes `now`
      simp only [List.mem_singleton, forall_eq, Table.get?_set_self, Option.some.injEq]
      exact decideGate_record_of_allowed hd

theorem foldl_remindOne (r : Runner) (loc : Location) (now : Instant) (l : List Account)
    (acc : AppState × List ReminderEvent) :
    ∃ R more, l.foldl (r.remindOne loc now) acc = ({ acc.1 with reminders := R }, acc.2 ++ more) ∧
      (∀ e, e ∉ more.map (·.email) → R.get? e = acc.1.reminders.get? e) ∧
      ∀ rm ∈ more, R.get? rm.email = some { lastNotified := some now } := by
  induction l generalizing acc with
  | nil => exact ⟨acc.1.reminders, [], by simp, fun _ _ => rfl, by simp⟩
  | cons a l ih =>
      obtain ⟨R₁, more₁, h₁, hframe₁, hrec₁⟩ := r.remindOne_spec loc now acc a
      obtain ⟨R₂, more₂, h₂, hframe₂, hrec₂⟩ := ih (r.remindOne loc now acc a)
      rw [h₁] at h₂ hframe₂
      refine ⟨R₂, more₁ ++ more₂, ?_, ?_, ?_⟩
      · rw [List.foldl_cons, h₁, h₂]
        simp
      · intro e he
        simp only [List.map_append, List.mem_append, not_or] at he
        exact (hframe₂ e he.2).trans (hframe₁ e he.1)
      · intro rm hrm
        rcases List.mem_append.1 hrm with hrm | hrm
        · -- a later reminder of the same email stores the same record
          by_cases hlater : rm.email ∈ more₂.map (·.email)
          · obtain ⟨rm', hrm', he⟩ := List.mem_map.1 hlater
            rw [← he]
            exact hrec₂ rm' hrm'
          · exact (hframe₂ _ hlater).trans (hrec₁ rm hrm)
        · exact hrec₂ rm hrm

/-- **Marking reminders.** The state keeps everything but its reminder records, which change
only at the emails reminded, each of whose records notes `now`. -/
theorem weeklyReminders_spec (r : Runner) (loc : Location) (now : Instant) (st : AppState) :
    ∃ R, (r.weeklyReminders loc now st).1 = { st with reminders := R } ∧
      (∀ e, e ∉ (r.weeklyReminders loc now st).2.map (·.email) → R.get? e = st.reminders.get? e) ∧
      ∀ rm ∈ (r.weeklyReminders loc now st).2, R.get? rm.email = some { lastNotified := some now } := by
  obtain ⟨R, more, h, hframe, hrec⟩ := r.foldl_remindOne loc now st.accounts (st, [])
  simp only [weeklyReminders, h, List.nil_append]
  exact ⟨R, rfl, hframe, hrec⟩

end Runner

namespace Manager

/-- Evaluating changes only the ledger, and only at the evaluated email. -/
theorem evaluate_spec (t : Thresholds) (st : AppState) (e : String) :
    ∃ L, (evaluate t st e).1 = { st with ledger := L } ∧ ∀ e', e' ≠ e → L.get? e' = st.ledger.get? e' := by
  simp only [evaluate]
  split
  · exact ⟨st.ledger, rfl, fun _ _ => rfl⟩
  · split
    · exact ⟨_, rfl, fun _ h => Table.get?_set_of_ne _ _ h⟩
    · exact ⟨st.ledger, rfl, fun _ _ => rfl⟩

/-- **Settling, field by field.** The state to save is the state after reading usage with its
snapshots normalized to the refresh's time, its ledger changed at most at the evaluated email (to
what evaluating gives, when the account is configured), its reminder records changed only at the
emails reminded — each noting the reading the reminders were decided at — and the time of the
refresh noted. The alerts are those of the evaluation. -/
theorem settle_spec (r : Runner) (s : Surroundings) (e : String) (c : Bool) (st : AppState) :
    ∃ L R, (settle r s e c st).1 =
        { st with
          accounts := st.accounts.map (normalizeAccount s.now), ledger := L, reminders := R,
          lastRefresh := some s.now } ∧
      L = (if c then (evaluate r.thresholds (normalizeAll st s.now) e).1
        else normalizeAll st s.now).ledger ∧
      (∀ e', e' ≠ e → L.get? e' = st.ledger.get? e') ∧
      (settle r s e c st).2.1 = (if c then (evaluate r.thresholds (normalizeAll st s.now) e).2 else []) ∧
      (∀ e', e' ∉ (settle r s e c st).2.2.map (·.email) → R.get? e' = st.reminders.get? e') ∧
      ∀ rm ∈ (settle r s e c st).2.2,
        R.get? rm.email = some { lastNotified := some (s.clock .reminders) } := by
  obtain ⟨L, hL, hLframe⟩ : ∃ L, (if c then (evaluate r.thresholds (normalizeAll st s.now) e).1
      else normalizeAll st s.now) = { normalizeAll st s.now with ledger := L } ∧
      ∀ e', e' ≠ e → L.get? e' = st.ledger.get? e' := by
    cases c
    · exact ⟨st.ledger, rfl, fun _ _ => rfl⟩
    · exact evaluate_spec r.thresholds (normalizeAll st s.now) e
  have hsettle : settle r s e c st =
      ({ (r.weeklyReminders s.zone (s.clock .reminders) { normalizeAll st s.now with ledger := L }).1 with
          lastRefresh := some s.now },
        (if c then (evaluate r.thresholds (normalizeAll st s.now) e).2 else []),
        (r.weeklyReminders s.zone (s.clock .reminders) { normalizeAll st s.now with ledger := L }).2) := by
    rw [← hL]
    cases c <;> rfl
  obtain ⟨R, hR, hRframe, hRrec⟩ :=
    r.weeklyReminders_spec s.zone (s.clock .reminders) { normalizeAll st s.now with ledger := L }
  rw [hsettle]
  refine ⟨L, R, ?_, by rw [hL], hLframe, rfl, hRframe, hRrec⟩
  rw [hR, ← normalizeAll_accounts]
  rfl

theorem settle_accounts (r : Runner) (s : Surroundings) (e : String) (c : Bool) (st : AppState) :
    (settle r s e c st).1.accounts = st.accounts.map (normalizeAccount s.now) := by
  obtain ⟨L, R, h, -⟩ := settle_spec r s e c st
  rw [h]

end Manager

/-! ### Reading the identity and usage -/

/-- The state after reading an identity: the signed-in email made active, or the state as it
was. -/
def AppState.signIn (st : AppState) : Except String String → AppState
  | .ok e => st.setActive e
  | .error _ => st

namespace AppState

variable (st : AppState) (identity : Except String String)

/-- Signing in changes only the active email. -/
theorem signIn_eq : st.signIn identity = { st with activeEmail := (st.signIn identity).activeEmail } := by
  cases identity <;> rfl

@[simp] theorem signIn_accounts : (st.signIn identity).accounts = st.accounts := by
  rw [signIn_eq]

@[simp] theorem signIn_ledger : (st.signIn identity).ledger = st.ledger := by
  rw [signIn_eq]

@[simp] theorem signIn_forcedRefresh : (st.signIn identity).forcedRefresh = st.forcedRefresh := by
  rw [signIn_eq]

@[simp] theorem signIn_reminders : (st.signIn identity).reminders = st.reminders := by
  rw [signIn_eq]

@[simp] theorem signIn_dailyHello : (st.signIn identity).dailyHello = st.dailyHello := by
  rw [signIn_eq]

@[simp] theorem account?_signIn : (st.signIn identity).account? = st.account? := by
  funext e
  simp only [account?, signIn_accounts]

/-- The active email after signing in is the stored one or the signed-in one. -/
theorem signIn_activeEmail : (st.signIn identity).activeEmail = st.activeEmail ∨
    ∃ e, identity = .ok e ∧ (st.signIn identity).activeEmail = (st.setActive e).activeEmail := by
  cases identity with
  | ok e => exact .inr ⟨e, rfl, rfl⟩
  | error t => exact .inl rfl

end AppState

namespace Manager

theorem trackActive_eq (m : Manager) (stored current : String) (now : Instant) :
    ∃ since, m.trackActive stored current now = { m with since, lastActive := current } := by
  unfold trackActive
  dsimp only
  generalize (if m.lastActive = "" then stored else m.lastActive) = prev
  split
  · exact ⟨some now, rfl⟩
  · exact ⟨m.since, rfl⟩

/-- Reading the identity changes only the manager's event cutoff and last active email. -/
theorem identify_manager (m : Manager) (s : Surroundings) (st : AppState) :
    ∃ since lastActive, (m.identify s st).1 = { m with since, lastActive } := by
  unfold identify
  split
  · obtain ⟨since, h⟩ := m.trackActive_eq st.active _ s.now
    exact ⟨since, _, h⟩
  · exact ⟨m.since, m.lastActive, rfl⟩

theorem identify_state (m : Manager) (s : Surroundings) (st : AppState) :
    (m.identify s st).2.1 = st.signIn s.identity := by
  unfold identify
  cases s.identity <;> rfl

end Manager

/-- How reading usage for the active email `email` may change the state, at clock `now`. -/
inductive UsageRead (now : Instant) (email : String) (st : AppState) : AppState → Prop
  /-- Nothing new was read. -/
  | unchanged : UsageRead now email st st
  /-- The event was incomplete, and a forced refresh ran for the email. -/
  | forced {st' : AppState} : ForcedRecordsOnly email st st' → UsageRead now email st st'
  /-- A fresh snapshot was merged into the snapshot of the account found for the email. -/
  | merged (acc : Account) (snap : Snapshot) : st.account? email = some acc →
      snap.fiveHour.assumedReset = false → snap.weekly.assumedReset = false →
      UsageRead now email st (st.updateAccount email fun a =>
        { a with lastSnapshot := some (Snapshot.merge acc.lastSnapshot snap).1, lastUpdated := some now })

/-- What reading usage for `email` keeps: the accounts, up to the snapshot of the one found for
the email, and every table but the email's forced-refresh record. -/
structure UsageFrame (email : String) (st st' : AppState) : Prop where
  accounts : List.Forall₂ (fun a a' => a' = a ∨ st.account? email = some a ∧ a'.email = a.email ∧
    a'.displayName = a.displayName ∧ a'.ordinal = a.ordinal) st.accounts st'.accounts
  activeEmail : st'.activeEmail = st.activeEmail
  ledger : st'.ledger = st.ledger
  forcedRefresh : ∀ e, e ≠ email → st'.forcedRefresh.get? e = st.forcedRefresh.get? e
  reminders : st'.reminders = st.reminders
  dailyHello : st'.dailyHello = st.dailyHello

theorem UsageRead.frame {now : Instant} {email : String} {st st' : AppState}
    (h : UsageRead now email st st') : UsageFrame email st st' := by
  cases h with
  | unchanged => exact ⟨List.forall₂_same.2 fun _ _ => .inl rfl, rfl, rfl, fun _ _ => rfl, rfl, rfl⟩
  | forced hf =>
      obtain ⟨t, rfl, ht⟩ := hf
      exact ⟨List.forall₂_same.2 fun _ _ => .inl rfl, rfl, rfl, ht, rfl, rfl⟩
  | merged acc snap hacc _ _ =>
      refine ⟨(AppState.updateAccount_accounts st email _).imp ?_, rfl, rfl, fun _ _ => rfl, rfl, rfl⟩
      rintro a a' (rfl | ⟨ha, rfl⟩)
      · exact .inl rfl
      · exact .inr ⟨ha, rfl, rfl, rfl⟩

/-- What reading usage for `email` from the state `st` may show: the question to the usage
source, a forced refresh's effects, and the history row of a merged snapshot. -/
def UsageEffect (email : String) (st : AppState) (o : Observation) : Prop :=
  (∃ since, o = .asked since) ∨ ForcedEffect email st o ∨ ∃ r, o = .snapshotStored r

namespace Manager

/-- **Reading usage.** The state changes as `UsageRead` allows, and the manager only gains
observations that `UsageEffect` allows. -/
theorem readUsage_spec (m : Manager) (s : Surroundings) (st : AppState) (hasAuth : Bool) :
    UsageRead s.now st.active st (m.readUsage s st hasAuth).2.1 ∧
      ∃ b, (m.readUsage s st hasAuth).1 = { m with backend := b } ∧
        m.backend.Extends (UsageEffect st.active st) b := by
  unfold readUsage
  split
  · rename_i acc hacc
    have hemail : acc.email = st.active := (AppState.account?_eq_some hacc).2
    have hasked : m.backend.Extends (UsageEffect st.active st) (m.backend.note (.asked m.since)) :=
      (Backend.Extends.refl _).note (.inl ⟨_, rfl⟩)
    rcases m.ingest_cases s st acc hasAuth with ⟨h₁, h₂, -⟩ | ⟨h₁, h₂, -⟩ | ⟨snap, hf, hw, -, h₁, h₂, -⟩
    · rw [h₂, h₁]
      exact ⟨.unchanged, _, rfl, hasked⟩
    · obtain ⟨hrec, hext⟩ := m.runner.forcedRefreshFor_effects s (s.clock .forcedDecision)
        (m.backend.note (.asked m.since)) st acc.email hasAuth
      rw [h₂, h₁, hemail]
      rw [hemail] at hrec hext
      exact ⟨.forced hrec, _, rfl, hasked.trans (hext.mono fun _ hx => .inr (.inl hx))⟩
    · rw [h₂, h₁, hemail]
      exact ⟨.merged acc snap hacc hf hw, _, rfl, hasked.recordSnapshot fun _ => .inr (.inr ⟨_, rfl⟩)⟩
  · exact ⟨.unchanged, m.backend, rfl, .refl _⟩

/-- **Gathering, stage by stage.** Gathering reads the identity into `st₁`, reads usage into
`st₂`, and settles `st₂` for the active email of `st₁`, evaluated when it is configured. The
manager keeps everything but its event cutoff, its last active email and its backend, which
only gains what reading usage shows. -/
theorem gather_spec (m : Manager) (s : Surroundings) (st : AppState) :
    ∃ st₁ st₂, st₁ = st.signIn s.identity ∧
      UsageRead s.now st₁.active st₁ st₂ ∧
      ((m.gather s st).2.1, (m.gather s st).2.2.alerts, (m.gather s st).2.2.reminders) =
        settle m.runner s st₁.active (st₁.account? st₁.active).isSome st₂ ∧
      (m.gather s st).2.2.activeEmail = st₁.active ∧
      ∃ since lastActive b, (m.gather s st).1 = { m with since, lastActive, backend := b } ∧
        m.backend.Extends (UsageEffect st₁.active st₁) b := by
  obtain ⟨since, lastActive, hm⟩ := m.identify_manager s st
  obtain ⟨hread, b, hb, hext⟩ :=
    (m.identify s st).1.readUsage_spec s (m.identify s st).2.1 (m.identify s st).2.2.1
  refine ⟨(m.identify s st).2.1, _, identify_state m s st, hread, ?_, ?_, since, lastActive, b,
    ?_, ?_⟩
  · -- the runner that settles is the one the manager started with
    simp only [gather]
    rw [hb]
    simp only [hm]
  · simp only [gather]
  · simp only [gather]
    rw [hb]
    simp only [hm]
  · rw [hm] at hext
    exact hext

end Manager

/-! ### Publishing -/

namespace Backend.Extends

variable {P : Observation → Prop} {b b₁ : Backend}

/-- Delivering reminders shows, for each, the reminder and its run. -/
theorem deliverFrom (h : Extends P b b₁) {s : Surroundings} {i : Nat} {rs : List ReminderEvent}
    (hrs : ∀ rm ∈ rs, P (.reminded rm) ∧
      ∀ run : AutomationRun, run.email = rm.email → run.kind = "weeklyReminder" → P (.runStored run)) :
    Extends P b (Runner.deliverFrom s i b₁ rs) := by
  induction rs generalizing b₁ i with
  | nil => exact h
  | cons rm rs ih =>
      obtain ⟨hrm, hrun⟩ := hrs rm List.mem_cons_self
      exact ih ((h.note hrm).recordRun hrun) fun rm' hrm' => hrs rm' (List.mem_cons_of_mem _ hrm')

end Backend.Extends

namespace Manager

/-- The result of publishing carries the saved state and what was gathered. -/
theorem publish_result (m : Manager) (s : Surroundings) (b : Backend) (st : AppState) (g : Gathered) :
    let r := (m.publish s b st g).2
    r.state = some st ∧ r.alerts = g.alerts ∧ r.reminders = g.reminders ∧
      r.activeEmail = g.activeEmail :=
  ⟨rfl, rfl, rfl, rfl⟩

/-- **Publishing.** The manager remembers the result as the latest, and its backend only gains
the alerts and the delivered reminders. -/
theorem publish_spec (m : Manager) (s : Surroundings) (b : Backend) (st : AppState) (g : Gathered)
    (P : Observation → Prop) (halerts : ∀ rec, P (.alerted g.alerts rec))
    (hrem : ∀ rm ∈ g.reminders, P (.reminded rm) ∧
      ∀ run : AutomationRun, run.email = rm.email → run.kind = "weeklyReminder" → P (.runStored run)) :
    (m.publish s b st g).1.latest = some (m.publish s b st g).2 ∧
      b.Extends P (m.publish s b st g).1.backend := by
  refine ⟨rfl, ?_⟩
  show b.Extends P (Runner.deliverFrom s 0 _ g.reminders)
  refine Backend.Extends.deliverFrom ?_ hrem
  split
  · exact .refl b
  · exact (Backend.Extends.refl b).note (halerts _)

/-! ### Whole refreshes -/

/-- The state a refresh starts from: the stored one, or the empty state when none is stored. -/
def loaded (m : Manager) : AppState :=
  match m.backend.load with
  | .ok stored => stored.getD {}
  | .error _ => {}

/-- What a refresh showed: the observations it added to the backend's log. -/
def refreshSeen (m : Manager) (s : Surroundings) : List Observation :=
  (m.refresh s).1.backend.seen.drop m.backend.seen.length

/-- **A refresh, by its outcome.** It fails to load and changes nothing; or it gathers from
the loaded state and fails to save, keeping the manager gathering left; or it saves the
gathered state and publishes. -/
theorem refresh_cases (m : Manager) (s : Surroundings) :
    (∃ e, m.refresh s = (m, .error e)) ∨
    (∃ e, (m.gather s m.loaded).1.backend.save (s.clock .refreshSave) (m.gather s m.loaded).2.1 =
        .error e ∧ m.refresh s = ((m.gather s m.loaded).1, .error e)) ∨
    (∃ b, (m.gather s m.loaded).1.backend.save (s.clock .refreshSave) (m.gather s m.loaded).2.1 = .ok b ∧
      m.refresh s =
        (((m.gather s m.loaded).1.publish s b (m.gather s m.loaded).2.1 (m.gather s m.loaded).2.2).1,
          .ok ((m.gather s m.loaded).1.publish s b (m.gather s m.loaded).2.1
            (m.gather s m.loaded).2.2).2)) := by
  unfold refresh loaded
  split
  · exact .inl ⟨_, rfl⟩
  · rename_i stored hload
    simp only [hload]
    split
    · exact .inr (.inl ⟨_, ‹_›, rfl⟩)
    · exact .inr (.inr ⟨_, ‹_›, rfl⟩)

/-- A refresh whose backend only gained observations satisfying `P` showed only such. -/
theorem refreshSeen_of_extends {m : Manager} {s : Surroundings} {P : Observation → Prop}
    (h : m.backend.Extends P (m.refresh s).1.backend) : ∀ o ∈ m.refreshSeen s, P o := by
  obtain ⟨-, new, hseen, hP⟩ := h
  simpa [refreshSeen, hseen] using hP

/-- **A successful refresh.** It read the identity into `st₁` and usage into `st₂`, and its
result carries the state settled from `st₂` for the active email of `st₁`, with the alerts and
reminders of settling. -/
theorem refresh_ok_spec {m : Manager} {s : Surroundings} {res : RefreshResult}
    (h : (m.refresh s).2 = .ok res) :
    ∃ st₁ st₂, st₁ = m.loaded.signIn s.identity ∧ UsageRead s.now st₁.active st₁ st₂ ∧
      res.state = some (settle m.runner s st₁.active (st₁.account? st₁.active).isSome st₂).1 ∧
      res.alerts = (settle m.runner s st₁.active (st₁.account? st₁.active).isSome st₂).2.1 ∧
      res.reminders = (settle m.runner s st₁.active (st₁.account? st₁.active).isSome st₂).2.2 ∧
      res.activeEmail = st₁.active := by
  obtain ⟨st₁, st₂, hst₁, hread, hsettle, hactive, -⟩ := m.gather_spec s m.loaded
  rcases m.refresh_cases s with ⟨e, h'⟩ | ⟨e, -, h'⟩ | ⟨b, -, h'⟩
  · rw [h'] at h
    cases h
  · rw [h'] at h
    cases h
  · rw [h'] at h
    cases h
    obtain ⟨hstate, halerts, hrem, hact⟩ := (m.gather s m.loaded).1.publish_result s b
      (m.gather s m.loaded).2.1 (m.gather s m.loaded).2.2
    refine ⟨st₁, st₂, hst₁, hread, ?_⟩
    rw [← hsettle]
    exact ⟨hstate, halerts, hrem, hact.trans hactive⟩

end Manager

/-! ### Runs of refreshes -/

/-- A run of successful refreshes from the stored state `st₀`, each loading the state the one
before wrote; `st` is the state the last one wrote. Each step keeps the manager that refreshed,
its surroundings and its result. -/
inductive RefreshRun (st₀ : AppState) : AppState → List (Manager × Surroundings × RefreshResult) → Prop
  | nil : RefreshRun st₀ st₀ []
  | step {st st' : AppState} {steps : List (Manager × Surroundings × RefreshResult)}
      (m : Manager) (s : Surroundings) (res : RefreshResult) :
      RefreshRun st₀ st steps → m.loaded = st → (m.refresh s).2 = .ok res → res.state = some st' →
      RefreshRun st₀ st' (steps ++ [(m, s, res)])

/-- A refresh that loads the state a run ended in, and succeeds with a state in its result,
extends the run. -/
theorem RefreshRun.extend {st₀ st : AppState} {steps : List (Manager × Surroundings × RefreshResult)}
    (hrun : RefreshRun st₀ st steps) {m : Manager} {s : Surroundings} (hload : m.loaded = st)
    (h : ((m.refresh s).2.toOption.bind (·.state)).isSome) :
    ∃ st' res, (m.refresh s).2 = .ok res ∧ res.state = some st' ∧
      RefreshRun st₀ st' (steps ++ [(m, s, res)]) := by
  cases hr : (m.refresh s).2 with
  | error e =>
      rw [hr] at h
      simp [Except.toOption] at h
  | ok res =>
      rw [hr] at h
      obtain ⟨st', hst⟩ := Option.isSome_iff_exists.1 (by simpa [Except.toOption] using h)
      exact ⟨st', res, rfl, hst, .step m s res hrun hload hr hst⟩

/-- Two refreshes on one manager make a run when the manager the first leaves loads back the
state it saved, and the second succeeds with a state. -/
theorem RefreshRun.pair {m : Manager} {s s' : Surroundings}
    (h₁ : (m.refresh s).2.toOption.bind (·.state) = some (m.refresh s).1.loaded)
    (h₂ : (((m.refresh s).1.refresh s').2.toOption.bind (·.state)).isSome) :
    ∃ st res res', RefreshRun m.loaded st [(m, s, res), ((m.refresh s).1, s', res')] := by
  obtain ⟨st₁, res, hr, hst, hrun⟩ := RefreshRun.nil.extend rfl (by rw [h₁]; rfl)
  have hload : (m.refresh s).1.loaded = st₁ := by
    rw [hr] at h₁
    simpa [Except.toOption, hst] using h₁.symm
  obtain ⟨st, res', -, -, hrun'⟩ := hrun.extend hload h₂
  exact ⟨st, res, res', hrun'⟩

end QuotaWatch
