import QuotaWatch.Proofs.Refresh.Alerts
/-!
**What a refresh shows, and when.**

A refresh writes the state once and only then shows alerts, delivers reminders and records their
runs, keeps its result and broadcasts it. Before the write it shows only the usage question, a
forced refresh's saves, message and run, and the history row of a merged snapshot.

Main definitions:

* `AlertNoted` — an alert whose level the saved ledger notes;
* `BeforeSave`, `AfterSave` — what a refresh may show before its write, and after it.

Main results:

* `UsageEffect.beforeSave` — reading usage shows only what may come before the write;
* `Manager.settle_alerts_noted` — every alert to show is noted in the state to save;
* `Manager.refresh_publishes_after_save` — **what a refresh shows, by its outcome**: before the
  write only what may come first, after it only what the saved state notes.
-/

namespace QuotaWatch

/-- The ledger notes the alert: the entry of its email has its level for its window. -/
def AlertNoted (ledger : Table LevelMark) (al : AlertEvent) : Prop :=
  ∃ k, ledger.get? al.email = some k ∧
    (al.window = .weekly ∧ k.weekly = al.level ∨ al.window = .fiveHour ∧ k.fiveHour = some al.level)

/-- What a refresh may show before its final write: the question to the usage source, a forced
refresh's saves, message and run, and the history row of a merged snapshot. -/
def BeforeSave : Observation → Prop
  | .asked _ => True
  | .saved _ => True
  | .sent _ _ => True
  | .snapshotStored _ => True
  | .runStored run => run.kind = "forcedRefresh"
  | _ => False

/-- What a refresh that wrote `st` may show after the write: alerts noted in its ledger, and
reminders and their runs, sent or failed, noted in its reminder records as due at the reading
`noted` the reminders were decided at. -/
def AfterSave (st : AppState) (noted : Instant) : Observation → Prop
  | .alerted events _ => ∀ al ∈ events, AlertNoted st.ledger al
  | .reminded rm => st.reminders.get? rm.email = some { lastNotified := some noted }
  | .runStored run =>
      run.kind = "weeklyReminder" ∧ st.reminders.get? run.email = some { lastNotified := some noted }
  | _ => False

theorem UsageEffect.beforeSave {email : String} {st : AppState} {o : Observation}
    (h : UsageEffect email st o) : BeforeSave o := by
  rcases h with ⟨_, rfl⟩ | h | ⟨_, rfl⟩
  · trivial
  · cases o with
    | saved _ => trivial
    | sent _ _ => trivial
    | runStored run => exact h.2
    | _ => exact h.elim
  · trivial

namespace Manager

/-- Evaluating notes each of its alerts in the ledger it leaves. -/
theorem evaluate_alerts_noted (t : Thresholds) (st : AppState) (e : String) :
    ∀ al ∈ (evaluate t st e).2, AlertNoted (evaluate t st e).1.ledger al := by
  unfold evaluate
  split
  · simp
  · rename_i acc hacc
    split
    · rename_i ev hev
      intro al hal
      obtain ⟨hemail, hlevel⟩ := (Thresholds.evaluate_alerts hev).1 al hal
      have he : al.email = e := hemail.trans (AppState.account?_eq_some hacc).2
      refine ⟨ev.mark, by rw [he, Table.get?_set_self], ?_⟩
      rcases hlevel with ⟨hw, hl⟩ | ⟨hw, hl⟩
      · exact .inl ⟨hw, hl.symm⟩
      · exact .inr ⟨hw, hl⟩
    · simp

/-- Settling notes each of its alerts in the ledger of the state it settles. -/
theorem settle_alerts_noted (r : Runner) (s : Surroundings) (e : String) (c : Bool) (st : AppState) :
    ∀ al ∈ (settle r s e c st).2.1, AlertNoted (settle r s e c st).1.ledger al := by
  obtain ⟨L, R, hst, hL, -, hal, -, -⟩ := settle_spec r s e c st
  rw [hst, hal]
  cases c
  · simp
  · simp only [if_true] at hL ⊢
    rw [hL]
    exact evaluate_alerts_noted r.thresholds (normalizeAll st s.now) e

/-- **What a refresh shows, by its outcome.** A refresh that fails leaves the latest result and
the mailboxes as they were, and shows only what may come before a final write. A refresh that
succeeds shows what may come before the write, then the write of the state of its result, then
only alerts noted in that state's ledger and reminders and their runs noted in its reminder
records at the reading the reminders were decided at. -/
theorem refresh_publishes_after_save (m : Manager) (s : Surroundings) :
    match (m.refresh s).2 with
    | .error _ => (m.refresh s).1.latest = m.latest ∧ (m.refresh s).1.mailboxes = m.mailboxes ∧
        ∀ o ∈ m.refreshSeen s, BeforeSave o
    | .ok res => ∃ st pre post, res.state = some st ∧ m.refreshSeen s = pre ++ .saved st :: post ∧
        (∀ o ∈ pre, BeforeSave o) ∧ ∀ o ∈ post, AfterSave st (s.clock .reminders) o := by
  obtain ⟨st₁, st₂, -, -, hsettle, -, since, lastActive, b₀, hm, hext⟩ := m.gather_spec s m.loaded
  have hpre : m.backend.Extends BeforeSave b₀ := hext.mono fun _ h => h.beforeSave
  rcases m.refresh_cases s with ⟨e, h⟩ | ⟨e, -, h⟩ | ⟨b, hsave, h⟩
  · -- nothing loaded: nothing changes
    simp [h, refreshSeen]
  · -- the final write failed: the manager is the one gathering left
    rw [h]
    refine ⟨by rw [hm], by rw [hm], ?_⟩
    have hall : m.backend.Extends BeforeSave (m.refresh s).1.backend := by
      rw [h, hm]
      exact hpre
    exact refreshSeen_of_extends hall
  · rw [h]
    obtain ⟨hstate, -, -, -⟩ := (m.gather s m.loaded).1.publish_result s b
      (m.gather s m.loaded).2.1 (m.gather s m.loaded).2.2
    -- what settling gave: alerts noted in the saved ledger, reminders noted as due
    have hnoted := settle_alerts_noted m.runner s st₁.active (st₁.account? st₁.active).isSome st₂
    obtain ⟨L, R, hst, -, -, -, -, hrec⟩ :=
      settle_spec m.runner s st₁.active (st₁.account? st₁.active).isSome st₂
    rw [← hsettle] at hnoted hst hrec
    obtain ⟨-, hpub⟩ := (m.gather s m.loaded).1.publish_spec s b (m.gather s m.loaded).2.1
      (m.gather s m.loaded).2.2 (AfterSave (m.gather s m.loaded).2.1 (s.clock .reminders))
      (fun _ => hnoted)
      (fun rm hrm => ⟨by rw [hst]; exact hrec rm hrm, fun run he hk => ⟨hk, by rw [hst, he]; exact hrec rm hrm⟩⟩)
    -- the log is what gathering showed, the write, and what publishing showed
    obtain ⟨-, pre, hseen₀, hpre'⟩ := hpre
    obtain ⟨hseen₁, -⟩ := Backend.save_eq_ok hsave
    obtain ⟨-, post, hseen₂, hpost⟩ := hpub
    refine ⟨_, pre, post, hstate, ?_, hpre', hpost⟩
    rw [refreshSeen, h, hseen₂, hseen₁, hm, hseen₀]
    simp

/-- A refresh whose final write fails has still written the history row of the snapshot it
merged: here the weekly window, one hundred years long, rolls forward past the year 9999, which
the store cannot write. -/
theorem failed_refresh_records_snapshot :
    let m : Manager :=
      { runner := { thresholds := .standard }
        backend :=
          { store := { dir := ["w"] }
            files :=
              { entries := [(["w"], .dir .zero), (["w", "state.json"], .file 0 .zero)]
                contents := [(0, Utf8.bytesOf
                  "\x7b\"accounts\": [\x7b\"email\": \"a@x.com\", \"codexNumber\": 1\x7d]\x7d")]
                nextId := 1 } } }
    let s : Surroundings :=
      { now := ⟨315519408000, 0, 0⟩
        identity := .ok "a@x.com"
        events := fun _ => .ok (some ⟨⟨315519408000, 0, 0⟩, some ⟨⟨315519411600, 0, 0⟩, 10, 300⟩,
          some ⟨⟨315506361600, 0, 0⟩, 10, 52560000⟩⟩) }
    (∃ e, (m.refresh s).2 = .error e) ∧ ∃ r, .snapshotStored r ∈ m.refreshSeen s := by
  intro m s
  have h : (m.refresh s).2.isOk = false ∧
      (m.refreshSeen s).any (fun | .snapshotStored _ => true | _ => false) = true := by
    dsimp only [m, s]
    decide +kernel
  obtain ⟨hfail, hrow⟩ := h
  refine ⟨?_, ?_⟩
  · cases hr : (m.refresh s).2 with
    | error e => exact ⟨e, rfl⟩
    | ok res =>
        rw [hr] at hfail
        cases hfail
  · obtain ⟨o, ho, hsnap⟩ := List.any_eq_true.1 hrow
    cases o with
    | snapshotStored r => exact ⟨r, ho⟩
    | _ => cases hsnap

end Manager

end QuotaWatch
