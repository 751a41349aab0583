import QuotaWatch.Proofs.Refresh.Stages
/-!
**The life of a snapshot across refreshes.**

A window is well-formed when being assumed reset means no usage and stale, and current at a time
when it is assumed reset or resets strictly after that time. Fresh windows of a complete event,
merging window by window, and normalizing to the clock all keep windows well-formed, and
normalizing, the last stage before a save, makes every window current. Merging drops older
observations and normalizing keeps the capture time, so over a run of refreshes each account's
capture time only advances.

Main definitions:

* `Window.WellFormed`, `Snapshot.WellFormed`, `Account.WellFormed`, `AppState.WellFormed` — being
  assumed reset means no usage and stale;
* `Window.CurrentAt`, `Snapshot.CurrentAt`, `Account.CurrentAt`, `AppState.CurrentAt` — assumed
  reset, or resetting after a time;
* `Account.Advances`, `SnapshotsAdvance` — capture times that only move forward, account by
  account;
* `Account.FreshMerge` — an account whose snapshot took in a fresh reading.

Main results:

* `Window.normalize_wellFormed`, `Window.normalize_currentAt`, `Window.merge_wellFormed` — each
  stage keeps windows well formed, and normalizing makes them current;
* `Snapshot.merge_not_before` — merging never moves the capture time back;
* `Manager.refresh_snapshot_step` — one refresh keeps the states well formed and current, and
  the snapshots advance;
* `refresh_run_snapshot_lifecycle` — **snapshots over any run of refreshes**.
-/

namespace QuotaWatch

/-! ### Capture order -/

namespace Instant

theorem before_irrefl (t : Instant) : t.before t = false := by
  simp [before]

/-- "Not before" is transitive: it is the order of seconds, then nanoseconds. -/
theorem before_eq_false_trans {t u v : Instant} (h₁ : t.before u = false) (h₂ : u.before v = false) :
    t.before v = false := by
  simp only [before, Bool.or_eq_false_iff, decide_eq_false_iff_not, Bool.and_eq_false_iff,
    beq_eq_false_iff_ne, ne_eq] at *
  omega

end Instant

/-! ### Windows -/

namespace Window

/-- Being assumed reset means showing no usage and being stale. -/
def WellFormed (w : Window) : Prop :=
  w.assumedReset = true → w.usedPercent = 0 ∧ w.isStale = true

/-- Assumed reset, or resetting strictly after `now`. -/
def CurrentAt (now : Instant) (w : Window) : Prop :=
  w.assumedReset = true ∨ now.before w.resetsAt = true

instance (w : Window) : Decidable w.WellFormed := inferInstanceAs (Decidable (_ → _))

instance (now : Instant) (w : Window) : Decidable (w.CurrentAt now) :=
  inferInstanceAs (Decidable (_ ∨ _))

/-- A window read from an event is well-formed: it is not assumed reset. -/
theorem wellFormed_of_fresh {w : Window} (h : w.assumedReset = false) : w.WellFormed := by
  simp [WellFormed, h]

/-- A window that normalizing reports unchanged is returned as it was. -/
theorem normalize_fst_of_unchanged {w : Window} {now : Instant} (h : (w.normalize now).2 = false) :
    (w.normalize now).1 = w := by
  by_cases hc : (now.before w.resetsAt || w.assumedReset) = true
  · simp [normalize, hc]
  · simp [normalize, hc] at h

theorem normalize_wellFormed {w : Window} (h : w.WellFormed) (now : Instant) :
    (w.normalize now).1.WellFormed := by
  unfold normalize
  split
  · exact h
  · exact fun _ => ⟨rfl, rfl⟩

/-- Normalizing makes a window current: one whose reset has passed becomes assumed reset. -/
theorem normalize_currentAt (w : Window) (now : Instant) : (w.normalize now).1.CurrentAt now := by
  unfold normalize
  split
  · rename_i hc
    simp only [Bool.or_eq_true] at hc
    exact hc.symm
  · exact .inl rfl

theorem merge_wellFormed {prev next : Window} (hp : prev.WellFormed) (hn : next.WellFormed)
    (observedAt : Instant) : (prev.merge next observedAt).WellFormed := by
  unfold merge
  split
  · exact hp
  · exact hn

end Window

/-! ### Snapshots -/

namespace Snapshot

/-- Both windows are well-formed. -/
def WellFormed (s : Snapshot) : Prop := s.fiveHour.WellFormed ∧ s.weekly.WellFormed

/-- Both windows are current at `now`. -/
def CurrentAt (now : Instant) (s : Snapshot) : Prop :=
  s.fiveHour.CurrentAt now ∧ s.weekly.CurrentAt now

instance (s : Snapshot) : Decidable s.WellFormed := inferInstanceAs (Decidable (_ ∧ _))

instance (now : Instant) (s : Snapshot) : Decidable (s.CurrentAt now) :=
  inferInstanceAs (Decidable (_ ∧ _))

/-- Normalizing a snapshot normalizes each window; a snapshot whose windows are both unchanged
is returned as it was, which is the same. -/
theorem normalize_eq (s : Snapshot) (now : Instant) :
    s.normalize now =
      { s with fiveHour := (s.fiveHour.normalize now).1, weekly := (s.weekly.normalize now).1 } := by
  simp only [normalize]
  split
  · rename_i h
    simp only [Bool.and_eq_true, Bool.not_eq_eq_eq_not, Bool.not_true] at h
    rw [Window.normalize_fst_of_unchanged h.1, Window.normalize_fst_of_unchanged h.2]
  · rfl

@[simp] theorem normalize_capturedAt (s : Snapshot) (now : Instant) :
    (s.normalize now).capturedAt = s.capturedAt := by
  rw [normalize_eq]

theorem normalize_wellFormed {s : Snapshot} (h : s.WellFormed) (now : Instant) :
    (s.normalize now).WellFormed := by
  rw [normalize_eq]
  exact ⟨Window.normalize_wellFormed h.1 now, Window.normalize_wellFormed h.2 now⟩

theorem normalize_currentAt (s : Snapshot) (now : Instant) : (s.normalize now).CurrentAt now := by
  rw [normalize_eq]
  exact ⟨Window.normalize_currentAt _ now, Window.normalize_currentAt _ now⟩

/-- Merging a well-formed snapshot into a well-formed one, or into none, gives a well-formed
one. -/
theorem merge_wellFormed {prev : Option Snapshot} {next : Snapshot}
    (hp : ∀ p ∈ prev, p.WellFormed) (hn : next.WellFormed) : (merge prev next).1.WellFormed := by
  unfold merge
  split
  · exact hn
  · rename_i p
    have hp' : p.WellFormed := hp p rfl
    split
    · exact hp'
    · exact ⟨Window.merge_wellFormed hp'.1 hn.1 _, Window.merge_wellFormed hp'.2 hn.2 _⟩

/-- Merging never gives a snapshot captured before the previous one: an older observation is
dropped. -/
theorem merge_not_before (p next : Snapshot) :
    (merge (some p) next).1.capturedAt.before p.capturedAt = false := by
  simp only [merge]
  split
  · exact Instant.before_irrefl p.capturedAt
  · rename_i h
    simpa using h

end Snapshot

/-! ### Accounts and states -/

namespace Account

/-- The account's snapshot, if it has one, is well-formed. -/
def WellFormed (a : Account) : Prop := ∀ snap ∈ a.lastSnapshot, snap.WellFormed

/-- The account's snapshot, if it has one, is current at `now`. -/
def CurrentAt (now : Instant) (a : Account) : Prop := ∀ snap ∈ a.lastSnapshot, snap.CurrentAt now

instance (a : Account) : Decidable a.WellFormed :=
  inferInstanceAs (Decidable (∀ snap ∈ a.lastSnapshot, snap.WellFormed))

instance (now : Instant) (a : Account) : Decidable (a.CurrentAt now) :=
  inferInstanceAs (Decidable (∀ snap ∈ a.lastSnapshot, snap.CurrentAt now))

/-- If `a` has a snapshot, `a'` has one captured no earlier. -/
def Advances (a a' : Account) : Prop :=
  ∀ snap ∈ a.lastSnapshot, ∃ snap' ∈ a'.lastSnapshot, snap'.capturedAt.before snap.capturedAt = false

theorem Advances.refl (a : Account) : Advances a a :=
  fun snap h => ⟨snap, h, Instant.before_irrefl _⟩

theorem Advances.trans {a a' a'' : Account} (h₁ : Advances a a') (h₂ : Advances a' a'') :
    Advances a a'' := by
  intro snap hsnap
  obtain ⟨snap', hsnap', hb'⟩ := h₁ snap hsnap
  obtain ⟨snap'', hsnap'', hb''⟩ := h₂ snap' hsnap'
  exact ⟨snap'', hsnap'', Instant.before_eq_false_trans hb'' hb'⟩

/-- How reading usage may change an account's snapshot: not at all, or by merging into it a
snapshot read from an event. -/
def FreshMerge (a a' : Account) : Prop :=
  a'.lastSnapshot = a.lastSnapshot ∨ ∃ snap : Snapshot, snap.fiveHour.assumedReset = false ∧
    snap.weekly.assumedReset = false ∧ a'.lastSnapshot = some (Snapshot.merge a.lastSnapshot snap).1

theorem FreshMerge.wellFormed {a a' : Account} (h : FreshMerge a a') (ha : a.WellFormed) :
    a'.WellFormed := by
  rcases h with h | ⟨snap, hf, hw, h⟩
  · rw [WellFormed, h]
    exact ha
  · intro s hs
    rw [h, Option.mem_some_iff] at hs
    subst hs
    exact Snapshot.merge_wellFormed ha ⟨Window.wellFormed_of_fresh hf, Window.wellFormed_of_fresh hw⟩

theorem FreshMerge.advances {a a' : Account} (h : FreshMerge a a') : Advances a a' := by
  intro snap hsnap
  rcases h with h | ⟨next, -, -, h⟩
  · exact ⟨snap, h ▸ hsnap, Instant.before_irrefl _⟩
  · rw [Option.mem_def] at hsnap
    rw [hsnap] at h
    exact ⟨_, h, Snapshot.merge_not_before snap next⟩

end Account

namespace Manager

theorem normalizeAccount_wellFormed {a : Account} (h : a.WellFormed) (now : Instant) :
    (normalizeAccount now a).WellFormed := by
  intro snap hsnap
  obtain ⟨s, hs, rfl⟩ := Option.map_eq_some_iff.1 hsnap
  exact Snapshot.normalize_wellFormed (h s hs) now

theorem normalizeAccount_currentAt (a : Account) (now : Instant) :
    (normalizeAccount now a).CurrentAt now := by
  intro snap hsnap
  obtain ⟨s, -, rfl⟩ := Option.map_eq_some_iff.1 hsnap
  exact Snapshot.normalize_currentAt s now

theorem normalizeAccount_advances (a : Account) (now : Instant) :
    a.Advances (normalizeAccount now a) := by
  intro snap hsnap
  refine ⟨snap.normalize now, Option.mem_map_of_mem _ hsnap, ?_⟩
  rw [Snapshot.normalize_capturedAt]
  exact Instant.before_irrefl _

end Manager

/-- Reading usage changes the snapshots of the accounts only by merging fresh ones. -/
theorem UsageRead.freshMerge {now : Instant} {email : String} {st st' : AppState}
    (h : UsageRead now email st st') : List.Forall₂ Account.FreshMerge st.accounts st'.accounts := by
  cases h with
  | unchanged => exact List.forall₂_same.2 fun _ _ => .inl rfl
  | forced hf =>
      obtain ⟨t, rfl, -⟩ := hf
      exact List.forall₂_same.2 fun _ _ => .inl rfl
  | merged acc snap hacc hf hw =>
      refine (AppState.updateAccount_accounts st email _).imp ?_
      rintro a a' (rfl | ⟨ha, rfl⟩)
      · exact .inl rfl
      · -- the account found is the one whose snapshot was merged into
        rw [hacc, Option.some.injEq] at ha
        subst ha
        exact .inr ⟨snap, hf, hw, rfl⟩

/-- Every window of every snapshot is well-formed. -/
def AppState.WellFormed (st : AppState) : Prop := ∀ a ∈ st.accounts, a.WellFormed

/-- Every window of every snapshot is current at `now`. -/
def AppState.CurrentAt (now : Instant) (st : AppState) : Prop := ∀ a ∈ st.accounts, a.CurrentAt now

instance (st : AppState) : Decidable st.WellFormed :=
  inferInstanceAs (Decidable (∀ a ∈ st.accounts, a.WellFormed))

instance (now : Instant) (st : AppState) : Decidable (st.CurrentAt now) :=
  inferInstanceAs (Decidable (∀ a ∈ st.accounts, a.CurrentAt now))

/-- `st'` has the accounts of `st`, in order, none with a snapshot captured earlier. -/
def SnapshotsAdvance (st st' : AppState) : Prop := List.Forall₂ Account.Advances st.accounts st'.accounts

theorem forall₂_mem_right {α β : Type} {R : α → β → Prop} :
    ∀ {l₁ : List α} {l₂ : List β}, List.Forall₂ R l₁ l₂ → ∀ b ∈ l₂, ∃ a ∈ l₁, R a b
  | _, _, .nil => by simp
  | _, _, .cons hab h => by
      intro b hb
      rcases List.mem_cons.1 hb with rfl | hb
      · exact ⟨_, List.mem_cons_self, hab⟩
      · obtain ⟨a, ha, hr⟩ := forall₂_mem_right h b hb
        exact ⟨a, List.mem_cons_of_mem _ ha, hr⟩

theorem forall₂_trans {α : Type} {R : α → α → Prop} (hR : ∀ a b c, R a b → R b c → R a c) :
    ∀ {l₁ l₂ l₃ : List α}, List.Forall₂ R l₁ l₂ → List.Forall₂ R l₂ l₃ → List.Forall₂ R l₁ l₃
  | _, _, _, .nil, .nil => .nil
  | _, _, _, .cons h₁ t₁, .cons h₂ t₂ => .cons (hR _ _ _ h₁ h₂) (forall₂_trans hR t₁ t₂)

theorem SnapshotsAdvance.refl (st : AppState) : SnapshotsAdvance st st :=
  List.forall₂_same.2 fun a _ => Account.Advances.refl a

theorem SnapshotsAdvance.trans {st st' st'' : AppState} (h₁ : SnapshotsAdvance st st')
    (h₂ : SnapshotsAdvance st' st'') : SnapshotsAdvance st st'' :=
  forall₂_trans (fun _ _ _ h h' => h.trans h') h₁ h₂

namespace Manager

/-- **One refresh.** A successful refresh from a state whose windows are all well-formed saves a
state whose windows are all well-formed and current at its clock, and in which every account
that had a snapshot has one captured no earlier. -/
theorem refresh_snapshot_step {m : Manager} {s : Surroundings} {res : RefreshResult}
    {st' : AppState} (hok : (m.refresh s).2 = .ok res) (hst : res.state = some st')
    (hwf : m.loaded.WellFormed) :
    st'.WellFormed ∧ st'.CurrentAt s.now ∧ SnapshotsAdvance m.loaded st' := by
  obtain ⟨st₁, st₂, rfl, hread, hstate, -⟩ := refresh_ok_spec hok
  rw [hst, Option.some.injEq] at hstate
  -- each saved account is a loaded one, its snapshot merged with a fresh one, then normalized
  have hstep : List.Forall₂ (fun a a₃ => (a.WellFormed → a₃.WellFormed) ∧ a₃.CurrentAt s.now ∧
      a.Advances a₃) m.loaded.accounts st'.accounts := by
    rw [hstate, settle_accounts, ← m.loaded.signIn_accounts s.identity]
    refine List.forall₂_map_right_iff.2 (hread.freshMerge.imp fun a a₂ h => ⟨?_, ?_, ?_⟩)
    · exact fun ha => normalizeAccount_wellFormed (h.wellFormed ha) s.now
    · exact normalizeAccount_currentAt a₂ s.now
    · exact h.advances.trans (normalizeAccount_advances a₂ s.now)
  refine ⟨?_, ?_, hstep.imp fun _ _ h => h.2.2⟩
  · intro a₃ ha₃
    obtain ⟨a, ha, h⟩ := forall₂_mem_right hstep a₃ ha₃
    exact h.1 (hwf a ha)
  · intro a₃ ha₃
    obtain ⟨a, -, h⟩ := forall₂_mem_right hstep a₃ ha₃
    exact h.2.1

end Manager

/-- **Snapshots over any run of refreshes.** From a stored state whose windows are all
well-formed, every state a run of successful refreshes saves has all windows well-formed and
current at the clock of the refresh that saved it, and the last state keeps the first's
accounts in order with no capture time moved back. -/
theorem refresh_run_snapshot_lifecycle {st₀ st : AppState}
    {steps : List (Manager × Surroundings × RefreshResult)} (hrun : RefreshRun st₀ st steps)
    (hwf : st₀.WellFormed) :
    st.WellFormed ∧ SnapshotsAdvance st₀ st ∧
      ∀ x ∈ steps, ∀ saved ∈ x.2.2.state, saved.WellFormed ∧ saved.CurrentAt x.2.1.now := by
  induction hrun with
  | nil => exact ⟨hwf, .refl st₀, by simp⟩
  | step m s res _ hload hok hstate ih =>
      obtain ⟨hwf', hadv, hsaved⟩ := ih
      subst hload
      obtain ⟨hwf'', hcur, hadv'⟩ := Manager.refresh_snapshot_step hok hstate hwf'
      refine ⟨hwf'', hadv.trans hadv', ?_⟩
      intro x hx saved hs
      rcases List.mem_append.1 hx with hx | hx
      · exact hsaved x hx saved hs
      · -- the refresh just run saved the state of its result
        rw [List.mem_singleton] at hx
        subst hx
        rw [hstate, Option.mem_some_iff] at hs
        subst hs
        exact ⟨hwf'', hcur⟩

/-- Two refreshes of a stored account without a snapshot, the first reading no usage and the
second a complete event, run from a well-formed state: the manager the first leaves loads back
the state it saved. -/
theorem two_refreshes_snapshot_lifecycle :
    let m : Manager :=
      { runner := { thresholds := .standard }
        backend :=
          { store := { dir := ["w"] }
            files :=
              { entries := [(["w"], .dir .zero), (["w", "state.json"], .file 0 .zero)]
                contents := [(0, Utf8.bytesOf "\x7b\"accounts\": [\x7b\"email\": \"a@x.com\"\x7d]\x7d")]
                nextId := 1 } } }
    let s₁ : Surroundings := { now := ⟨63900000000, 0, 0⟩, identity := .ok "a@x.com" }
    let s₂ : Surroundings :=
      { now := ⟨63900000300, 0, 0⟩
        identity := .ok "a@x.com"
        events := fun _ => .ok (some ⟨⟨63900000300, 0, 0⟩, some ⟨⟨63900003600, 0, 0⟩, 10, 300⟩,
          some ⟨⟨63900300000, 0, 0⟩, 20, 10080⟩⟩) }
    ∃ st res₁ res₂, RefreshRun m.loaded st [(m, s₁, res₁), ((m.refresh s₁).1, s₂, res₂)] ∧
      m.loaded.WellFormed ∧ st.WellFormed ∧ SnapshotsAdvance m.loaded st ∧
      ∀ x ∈ [(m, s₁, res₁), ((m.refresh s₁).1, s₂, res₂)], ∀ saved ∈ x.2.2.state,
        saved.WellFormed ∧ saved.CurrentAt x.2.1.now := by
  intro m s₁ s₂
  have hok : (m.refresh s₁).2.toOption.bind (·.state) = some (m.refresh s₁).1.loaded ∧
      (((m.refresh s₁).1.refresh s₂).2.toOption.bind (·.state)).isSome ∧ m.loaded.WellFormed := by
    dsimp only [m, s₁, s₂]
    decide +kernel
  obtain ⟨h₁, h₂, hwf⟩ := hok
  obtain ⟨st, res₁, res₂, hrun⟩ := RefreshRun.pair h₁ h₂
  exact ⟨st, res₁, res₂, hrun, hwf, refresh_run_snapshot_lifecycle hrun hwf⟩

end QuotaWatch
