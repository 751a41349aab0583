import QuotaWatch.Proofs.Refresh.Stages
/-!
**The alert ratchet over runs of refreshes.**

A window alerts when its level is not normal and higher than the one the ledger noted, or none
was. The ledger follows levels down too, so a level that falls and climbs back alerts again.

Main definitions:

* `Thresholds.markOf` — the levels of an account's two windows, as the ledger notes them;
* `WeeklyAlertDue`, `FiveHourAlertDue` — when a window's level is due an alert over the noted one;
* `RefreshResult.markFor`, `RefreshResult.Alerted` — what a refresh noted for an email, and
  whether it alerted a window;
* `lastMark`, `noted` — the last levels noted over a run.

Main results:

* `shouldAlert_iff` — the ratchet's rule;
* `Thresholds.evaluate_mark`, `Thresholds.evaluate_alerts` — one evaluation notes the levels and
  alerts exactly the windows due;
* `Manager.evaluate_ratchet`, `Manager.refresh_alert_step` — one refresh follows the ratchet;
* `alert_ratchet_over_run` — **the alert ratchet over any run of refreshes**.
-/

namespace QuotaWatch

/-! ### Levels and the ratchet's rule -/

namespace Thresholds

theorem level_cases (t : Thresholds) (r : Percent) :
    t.level r = .normal ∨ t.level r = .warning ∨ t.level r = .critical := by
  unfold level
  split
  · exact .inr (.inr rfl)
  · split
    · exact .inr (.inl rfl)
    · exact .inl rfl

/-- The levels a refresh notes for an account with usable weekly usage: the weekly level, and
the 5-hour one unless weekly is at or below the critical cut or the 5-hour usage is unusable. -/
def markOf (t : Thresholds) (a : Account) : Option LevelMark :=
  (a.remaining .weekly).map fun wr =>
    ⟨if wr.atMost t.critical then none else (a.remaining .fiveHour).map t.level, t.level wr⟩

end Thresholds

/-- A level that is not normal alerts when nothing was noted or it is strictly higher. -/
theorem shouldAlert_iff (prev : Option Level) (l : Level) :
    shouldAlert prev l = true ↔ l ≠ .normal ∧ ∀ p ∈ prev, p < l := by
  unfold shouldAlert
  by_cases hl : l = .normal
  · simp [hl]
  · cases prev <;> simp [hl]

/-- A weekly alert is due when the refresh noted a weekly level that is a warning or critical,
higher than the weekly level noted last, if one was. -/
def WeeklyAlertDue (prev mk : Option LevelMark) : Prop :=
  ∃ k, mk = some k ∧ (k.weekly = .warning ∨ k.weekly = .critical) ∧ ∀ p ∈ prev, p.weekly < k.weekly

/-- A 5-hour alert is due when the refresh noted a 5-hour level (weekly above the critical cut,
5-hour usage usable) that is not normal and is higher than the 5-hour level noted last, if one
was. -/
def FiveHourAlertDue (prev mk : Option LevelMark) : Prop :=
  ∃ k l, mk = some k ∧ k.fiveHour = some l ∧ l ≠ .normal ∧ ∀ p ∈ prev, ∀ pl ∈ p.fiveHour, pl < l

/-! ### One evaluation -/

namespace Thresholds

variable {t : Thresholds} {a : Account} {prev : Option LevelMark} {ev : Evaluation}

/-- An evaluation notes the levels `markOf` reads, whatever was noted before; it gives none
exactly when the weekly usage is unusable. -/
theorem evaluate_mark (t : Thresholds) (a : Account) (prev : Option LevelMark) :
    (t.evaluate a prev).map (·.mark) = t.markOf a := by
  unfold evaluate markOf
  cases hw : a.remaining .weekly with
  | none => rfl
  | some wr =>
      by_cases hc : wr.atMost t.critical = true
      · simp [hc]
      · cases a.remaining .fiveHour <;> simp [hc]

/-- The alerts of an evaluation: each is the account's, for a window at the level noted for it;
a weekly one exactly when the ratchet lets the weekly level alert, a 5-hour one exactly when a
5-hour level was noted and the ratchet lets it alert. -/
theorem evaluate_alerts (h : t.evaluate a prev = some ev) :
    (∀ e ∈ ev.events, e.email = a.email ∧ (e.window = .weekly ∧ e.level = ev.mark.weekly ∨
      e.window = .fiveHour ∧ ev.mark.fiveHour = some e.level)) ∧
      ((∃ e ∈ ev.events, e.window = .weekly) ↔
        shouldAlert (prev.map (·.weekly)) ev.mark.weekly = true) ∧
      ((∃ e ∈ ev.events, e.window = .fiveHour) ↔
        ∃ l, ev.mark.fiveHour = some l ∧ shouldAlert (prev.bind (·.fiveHour)) l = true) := by
  unfold evaluate at h
  cases hw : a.remaining .weekly with
  | none => simp [hw] at h
  | some wr =>
      by_cases hc : wr.atMost t.critical = true
      · -- weekly at or below the critical cut: the 5-hour window is not looked at
        simp only [hw, hc, if_true, Option.some.injEq] at h
        subst h
        by_cases hs : shouldAlert (prev.map (·.weekly)) (t.level wr) = true <;>
          simp [hs, AlertEvent.ofAccount]
      · cases hf : a.remaining .fiveHour with
        | none =>
            simp only [hw, hc, hf, Bool.false_eq_true, if_false, Option.some.injEq] at h
            subst h
            by_cases hs : shouldAlert (prev.map (·.weekly)) (t.level wr) = true <;>
              simp [hs, AlertEvent.ofAccount]
        | some fr =>
            simp only [hw, hc, hf, Bool.false_eq_true, if_false, Option.some.injEq] at h
            subst h
            by_cases hs : shouldAlert (prev.map (·.weekly)) (t.level wr) = true <;>
              by_cases hs' : shouldAlert (prev.bind (·.fiveHour)) (t.level fr) = true <;>
              simp [hs, hs', AlertEvent.ofAccount]

end Thresholds

/-! ### What a refresh noted and alerted -/

namespace RefreshResult

/-- The levels a refresh noted for `email`: those of its account in the saved state, when it was
the active email; `none` when the refresh did not evaluate it. -/
def markFor (res : RefreshResult) (t : Thresholds) (email : String) : Option LevelMark :=
  if res.activeEmail = email then (res.state.bind (·.account? email)).bind t.markOf else none

/-- The refresh alerted on the window `w` of `email`. -/
def Alerted (res : RefreshResult) (email : String) (w : WindowKind) : Prop :=
  ∃ e ∈ res.alerts, e.email = email ∧ e.window = w

instance (res : RefreshResult) (email : String) (w : WindowKind) : Decidable (res.Alerted email w) :=
  inferInstanceAs (Decidable (∃ e ∈ res.alerts, _))

end RefreshResult

/-- The levels noted last after refreshes that noted `marks`, in order, from a ledger with no
entry: the last mark noted, if any. -/
def lastMark (marks : List (Option LevelMark)) : Option LevelMark :=
  marks.foldl (fun prev mk => mk.or prev) none

@[simp] theorem lastMark_nil : lastMark [] = none := rfl

theorem lastMark_append_singleton (marks : List (Option LevelMark)) (mk : Option LevelMark) :
    lastMark (marks ++ [mk]) = mk.or (lastMark marks) := by
  simp [lastMark, List.foldl_append]

/-- Accounts with the same emails in the same order find an account for the same emails. -/
theorem find?_email_isSome {l l' : List Account}
    (h : List.Forall₂ (fun a a' => a'.email = a.email) l l') (e : String) :
    (l'.find? (·.email == e)).isSome = (l.find? (·.email == e)).isSome := by
  induction h with
  | nil => rfl
  | @cons a a' l l' hab _ ih => by_cases ha : a.email = e <;> simp [hab, ha, ih]

/-- Reading usage keeps which emails have an account. -/
theorem UsageFrame.account?_isSome {email : String} {st st' : AppState} (hu : UsageFrame email st st')
    (e : String) : (st'.account? e).isSome = (st.account? e).isSome :=
  find?_email_isSome (hu.accounts.imp fun a a' h => by
    rcases h with rfl | ⟨-, he, -⟩
    · rfl
    · exact he) e

/-- Among alerts that are all for `e`, one is for `email` on a window exactly when `email` is `e`
and one is on that window. -/
theorem exists_alert_for_iff {alerts : List AlertEvent} {e : String} (h : ∀ al ∈ alerts, al.email = e)
    (email : String) (w : WindowKind) :
    (∃ al ∈ alerts, al.email = email ∧ al.window = w) ↔ e = email ∧ ∃ al ∈ alerts, al.window = w := by
  constructor
  · rintro ⟨al, hal, rfl, hw⟩
    exact ⟨(h al hal).symm, al, hal, hw⟩
  · rintro ⟨rfl, al, hal, hw⟩
    exact ⟨al, hal, h al hal, hw⟩

theorem Thresholds.markOf_weekly {t : Thresholds} {a : Account} {k : LevelMark}
    (h : t.markOf a = some k) : k.weekly ≠ .normal ↔ k.weekly = .warning ∨ k.weekly = .critical := by
  unfold markOf at h
  obtain ⟨wr, -, rfl⟩ := Option.map_eq_some_iff.1 h
  rcases t.level_cases wr with hl | hl | hl <;> simp only [hl] <;> decide

namespace Manager

/-- **Evaluating the active email.** Its ledger entry becomes the levels `markOf` reads off its
account, or stays as it was when there are none; every alert is the email's, and it alerts on
a window exactly as the ratchet's rule says against the entry before. -/
theorem evaluate_ratchet (t : Thresholds) (st : AppState) (e : String) :
    (evaluate t st e).1.ledger.get? e = ((st.account? e).bind t.markOf).or (st.ledger.get? e) ∧
      (∀ al ∈ (evaluate t st e).2, al.email = e) ∧
      ((∃ al ∈ (evaluate t st e).2, al.window = .weekly) ↔
        WeeklyAlertDue (st.ledger.get? e) ((st.account? e).bind t.markOf)) ∧
      ((∃ al ∈ (evaluate t st e).2, al.window = .fiveHour) ↔
        FiveHourAlertDue (st.ledger.get? e) ((st.account? e).bind t.markOf)) := by
  cases hacc : st.account? e with
  | none => simp [evaluate, hacc, WeeklyAlertDue, FiveHourAlertDue]
  | some acc =>
      have hmk := t.evaluate_mark acc (st.ledger.get? e)
      cases hev : t.evaluate acc (st.ledger.get? e) with
      | none =>
          rw [hev, Option.map_none] at hmk
          simp [evaluate, hacc, hev, ← hmk, WeeklyAlertDue, FiveHourAlertDue]
      | some ev =>
          rw [hev, Option.map_some] at hmk
          obtain ⟨hemail, hweekly, hfive⟩ := Thresholds.evaluate_alerts hev
          have hacc' : acc.email = e := (AppState.account?_eq_some hacc).2
          simp only [evaluate, hacc, hev, Table.get?_set_self, Option.bind_some, ← hmk,
            Option.some_or, true_and]
          refine ⟨fun al hal => (hemail al hal).1.trans hacc', ?_, ?_⟩
          · -- a weekly level is one of the three, so "not normal" is "warning or critical"
            rw [hweekly, shouldAlert_iff, Thresholds.markOf_weekly hmk.symm]
            simp only [WeeklyAlertDue, Option.some.injEq, exists_eq_left']
            cases st.ledger.get? e <;> simp
          · rw [hfive]
            simp only [FiveHourAlertDue, Option.some.injEq, shouldAlert_iff]
            cases st.ledger.get? e <;> simp

/-- Settling for an email that had an account before usage was read evaluates it in the
normalized state: reading usage keeps which emails have an account, and evaluating an email
without one changes nothing. -/
theorem settle_evaluates (r : Runner) (s : Surroundings) {e : String} {st₁ st₂ : AppState}
    (hu : UsageFrame e st₁ st₂) :
    (settle r s e (st₁.account? e).isSome st₂).1.ledger =
        (evaluate r.thresholds (normalizeAll st₂ s.now) e).1.ledger ∧
      (settle r s e (st₁.account? e).isSome st₂).2.1 =
        (evaluate r.thresholds (normalizeAll st₂ s.now) e).2 := by
  obtain ⟨L, R, hst, hL, -, hal, -, -⟩ := settle_spec r s e (st₁.account? e).isSome st₂
  have hconf : (st₁.account? e).isSome = ((normalizeAll st₂ s.now).account? e).isSome := by
    rw [account?_normalizeAll, Option.isSome_map, hu.account?_isSome]
  rw [hst, hal, hL, hconf]
  cases hN : (normalizeAll st₂ s.now).account? e with
  | none => simp [evaluate, hN]
  | some _ => simp

/-- **One refresh.** A successful refresh notes for an email the levels `markFor` reads — the
ledger entry stays as loaded when it noted none — and alerts on the email's weekly and 5-hour
windows exactly when the ratchet's rule says, against the entry it loaded. -/
theorem refresh_alert_step {m : Manager} {s : Surroundings} {res : RefreshResult}
    (hok : (m.refresh s).2 = .ok res) (email : String) :
    (∀ saved ∈ res.state,
        saved.ledger.get? email = (res.markFor m.runner.thresholds email).or (m.loaded.ledger.get? email)) ∧
      (res.Alerted email .weekly ↔
        WeeklyAlertDue (m.loaded.ledger.get? email) (res.markFor m.runner.thresholds email)) ∧
      (res.Alerted email .fiveHour ↔
        FiveHourAlertDue (m.loaded.ledger.get? email) (res.markFor m.runner.thresholds email)) := by
  obtain ⟨st₁, st₂, hst₁, hread, hstate, halerts, -, hactive⟩ := refresh_ok_spec hok
  obtain ⟨hL, hal⟩ := settle_evaluates m.runner s hread.frame
  -- the refresh evaluated the active email of the normalized state, whose ledger is the one it
  -- loaded and whose accounts are those it saved
  have hprev : (normalizeAll st₂ s.now).ledger = m.loaded.ledger := by
    rw [← m.loaded.signIn_ledger s.identity, ← hst₁, ← hread.frame.ledger]
    rfl
  have hsaved : ∀ saved ∈ res.state,
      saved.ledger = (evaluate m.runner.thresholds (normalizeAll st₂ s.now) st₁.active).1.ledger := by
    intro saved h
    rw [hstate, Option.mem_some_iff] at h
    rw [← h, hL]
  have hmark : res.markFor m.runner.thresholds email = if st₁.active = email then
      ((normalizeAll st₂ s.now).account? email).bind m.runner.thresholds.markOf else none := by
    simp only [RefreshResult.markFor, hactive, hstate, Option.bind_some, AppState.account?,
      settle_accounts, normalizeAll_accounts]
  have hemail := (evaluate_ratchet m.runner.thresholds (normalizeAll st₂ s.now) st₁.active).2.1
  simp only [RefreshResult.Alerted, halerts, hal, exists_alert_for_iff hemail, hmark, ← hprev]
  by_cases he : st₁.active = email
  · -- the email is the active one: evaluating it is the ratchet
    subst he
    obtain ⟨hledger, -, hweekly, hfive⟩ :=
      evaluate_ratchet m.runner.thresholds (normalizeAll st₂ s.now) st₁.active
    simp only [if_true, true_and]
    exact ⟨fun saved h => by rw [hsaved saved h, hledger], hweekly, hfive⟩
  · -- another email: evaluating the active one neither notes nor alerts anything for it
    obtain ⟨L, hL', hLframe⟩ := evaluate_spec m.runner.thresholds (normalizeAll st₂ s.now) st₁.active
    simp only [he, if_false, false_and, false_iff, Option.none_or]
    refine ⟨fun saved h => by rw [hsaved saved h, hL', hLframe email (Ne.symm he)], ?_, ?_⟩
    · simp [WeeklyAlertDue]
    · simp [FiveHourAlertDue]

end Manager

/-! ### Runs of refreshes -/

/-- The levels a refresh of a run noted for `email`. -/
def noted (email : String) (x : Manager × Surroundings × RefreshResult) : Option LevelMark :=
  x.2.2.markFor x.1.runner.thresholds email

/-- **The alert ratchet over any run of refreshes.** From a stored ledger with no entry for an
email, the entry after a run of refreshes is the mark of the last refresh that evaluated the
email — refreshes that did not evaluate it leave it alone — and each refresh alerts on the
email's weekly and 5-hour windows exactly as the ratchet's rule says against the levels noted by
the last refresh before it that evaluated the email. -/
theorem alert_ratchet_over_run {st₀ st : AppState}
    {steps : List (Manager × Surroundings × RefreshResult)} (hrun : RefreshRun st₀ st steps)
    {email : String} (hnone : st₀.ledger.get? email = none) :
    st.ledger.get? email = lastMark (steps.map (noted email)) ∧
      ∀ pre x post, steps = pre ++ x :: post →
        (x.2.2.Alerted email .weekly ↔
          WeeklyAlertDue (lastMark (pre.map (noted email))) (noted email x)) ∧
        (x.2.2.Alerted email .fiveHour ↔
          FiveHourAlertDue (lastMark (pre.map (noted email))) (noted email x)) := by
  induction hrun with
  | nil =>
      refine ⟨hnone, fun pre x post h => ?_⟩
      simp at h
  | @step st st' steps m s res _ hload hok hstate ih =>
      obtain ⟨hledger, halerts⟩ := ih
      subst hload
      obtain ⟨hsaved, hweekly, hfive⟩ := Manager.refresh_alert_step hok email
      refine ⟨?_, fun pre x post h => ?_⟩
      · rw [hsaved st' (by simp [hstate]), hledger, List.map_append, List.map_singleton,
          lastMark_append_singleton]
        rfl
      · -- the refresh in question is the one just run, or one before it
        rcases List.eq_nil_or_concat post with rfl | ⟨post', y, rfl⟩
        · obtain ⟨rfl, hx⟩ := List.append_inj' h (by simp)
          rw [List.singleton_inj] at hx
          subst hx
          rw [← hledger]
          exact ⟨hweekly, hfive⟩
        · have h' : steps ++ [(m, s, res)] = (pre ++ x :: post') ++ [y] := by
            rw [h]
            simp
          exact halerts pre x post' (List.append_inj' h' rfl).1

/-- Two refreshes of an account without a snapshot, the first reading no usage and the second
weekly usage of 90%, run from a ledger with no entry: the manager the first leaves loads back the
state it saved. -/
theorem two_refreshes_alert_ratchet :
    let m : Manager :=
      { runner := { thresholds := .standard }
        backend :=
          { store := { dir := ["w"] }
            files :=
              { entries := [(["w"], .dir .zero), (["w", "state.json"], .file 0 .zero)]
                contents := [(0, Utf8.bytesOf "\x7b\"accounts\": [\x7b\"email\": \"a@x.com\"\x7d]\x7d")]
                nextId := 1 } } }
    let s₁ : Surroundings := { now := ⟨63900000000, 0, 0⟩, identity := .ok "a@x.com" }
    let s₂ : Surroundings :=
      { now := ⟨63900000300, 0, 0⟩
        identity := .ok "a@x.com"
        events := fun _ => .ok (some ⟨⟨63900000300, 0, 0⟩, some ⟨⟨63900003600, 0, 0⟩, 10, 300⟩,
          some ⟨⟨63900300000, 0, 0⟩, 90, 10080⟩⟩) }
    ∃ st res₁ res₂, RefreshRun m.loaded st [(m, s₁, res₁), ((m.refresh s₁).1, s₂, res₂)] ∧
      m.loaded.ledger.get? "a@x.com" = none ∧
      st.ledger.get? "a@x.com" =
        lastMark ([(m, s₁, res₁), ((m.refresh s₁).1, s₂, res₂)].map (noted "a@x.com")) ∧
      ∀ pre x post, [(m, s₁, res₁), ((m.refresh s₁).1, s₂, res₂)] = pre ++ x :: post →
        (x.2.2.Alerted "a@x.com" .weekly ↔
          WeeklyAlertDue (lastMark (pre.map (noted "a@x.com"))) (noted "a@x.com" x)) ∧
        (x.2.2.Alerted "a@x.com" .fiveHour ↔
          FiveHourAlertDue (lastMark (pre.map (noted "a@x.com"))) (noted "a@x.com" x)) := by
  intro m s₁ s₂
  have hok : (m.refresh s₁).2.toOption.bind (·.state) = some (m.refresh s₁).1.loaded ∧
      (((m.refresh s₁).1.refresh s₂).2.toOption.bind (·.state)).isSome ∧
      m.loaded.ledger.get? "a@x.com" = none := by
    dsimp only [m, s₁, s₂]
    decide +kernel
  obtain ⟨h₁, h₂, hnone⟩ := hok
  obtain ⟨st, res₁, res₂, hrun⟩ := RefreshRun.pair h₁ h₂
  exact ⟨st, res₁, res₂, hrun, hnone, alert_ratchet_over_run hrun hnone⟩

end QuotaWatch
