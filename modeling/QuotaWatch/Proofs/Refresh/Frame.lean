import QuotaWatch.Proofs.Refresh.Stages
/-!
**What a refresh may change.**

Every state a refresh writes, midway in a forced refresh or at its end, differs from the state
loaded only where the refresh is about: the active account, its records, and the reminders sent.

Main definitions:

* `AccountFrame` — how one account may change: the chosen one by its new reading, every one by
  normalizing to the clock;
* `RefreshFrame` — how a whole state may change in a refresh;
* `SavesWithin` — an observation that saves only states of a frame.

Main results:

* `RefreshFrame.of_forced`, `RefreshFrame.of_settle` — the midway save of a forced refresh and
  the state a refresh settles on are within the frame;
* `Manager.refresh_saves_within_frame` — **every state a refresh writes is within the frame**.
-/

namespace QuotaWatch

/-- What a refresh at clock `now` may change in one account, `chosen` being the account it read
usage for: nothing but the snapshot, which is kept or normalized to `now` — or, for the chosen
account, replaced. -/
structure AccountFrame (chosen : Option Account) (now : Instant) (a a' : Account) : Prop where
  email : a'.email = a.email
  displayName : a'.displayName = a.displayName
  ordinal : a'.ordinal = a.ordinal
  snapshot : chosen = some a ∨ a'.lastUpdated = a.lastUpdated ∧
    (a'.lastSnapshot = a.lastSnapshot ∨ a'.lastSnapshot = a.lastSnapshot.map (·.normalize now))

/-- What a refresh that read the identity `identity` at clock `now` may change between the
state `st` it loaded and a state `st'` it writes, `due` being the emails it reminded. -/
structure RefreshFrame (identity : Except String String) (now : Instant) (due : List String)
    (st st' : AppState) : Prop where
  accounts : List.Forall₂ (AccountFrame (st.account? st'.active) now) st.accounts st'.accounts
  ledger : ∀ e, e ≠ st'.active → st'.ledger.get? e = st.ledger.get? e
  forcedRefresh : ∀ e, e ≠ st'.active → st'.forcedRefresh.get? e = st.forcedRefresh.get? e
  reminders : ∀ e, e ∉ due → st'.reminders.get? e = st.reminders.get? e
  dailyHello : st'.dailyHello = st.dailyHello
  activeEmail : st'.activeEmail = st.activeEmail ∨
    ∃ e, identity = .ok e ∧ st'.activeEmail = (st.setActive e).activeEmail

theorem AccountFrame.refl (chosen : Option Account) (now : Instant) (a : Account) :
    AccountFrame chosen now a a :=
  ⟨rfl, rfl, rfl, .inr ⟨rfl, .inl rfl⟩⟩

namespace RefreshFrame

variable {identity : Except String String} {now : Instant} {due : List String}
  {st st₁ : AppState}

/-- A state written by the forced refresh that reading usage ran is within the frame. -/
theorem of_forced {x : AppState}
    (hst₁ : st₁ = st.signIn identity)
    (h : ForcedRecordsOnly st₁.active st₁ x) : RefreshFrame identity now due st x := by
  obtain ⟨t, rfl, ht⟩ := h
  subst hst₁
  refine ⟨?_, fun _ _ => by simp, fun e he => by simpa using ht e he, fun _ _ => by simp, by simp,
    st.signIn_activeEmail identity⟩
  simpa using List.forall₂_same.2 fun a _ => AccountFrame.refl _ now a

/-- The state a refresh settles and writes at its end is within the frame, for any `due` that
holds the emails reminded. -/
theorem of_settle {st₂ : AppState} {r : Runner} {s : Surroundings} {configured : Bool}
    (hst₁ : st₁ = st.signIn identity)
    (hread : UsageRead s.now st₁.active st₁ st₂)
    (hdue : ∀ rm ∈ (Manager.settle r s st₁.active configured st₂).2.2, rm.email ∈ due) :
    RefreshFrame identity s.now due st (Manager.settle r s st₁.active configured st₂).1 := by
  obtain ⟨L, R, hst₃, -, hL, -, hR, -⟩ := Manager.settle_spec r s st₁.active configured st₂
  have hu := hread.frame
  have hact₃ : (Manager.settle r s st₁.active configured st₂).1.active = st₁.active := by
    rw [hst₃]
    exact congrArg (·.getD "") hu.activeEmail
  subst hst₁
  refine ⟨?_, ?_, ?_, ?_, ?_, ?_⟩
  · -- accounts: the one read is replaced, every other kept, then all normalized
    rw [hact₃, hst₃, ← st.signIn_accounts identity, ← st.account?_signIn identity]
    refine List.forall₂_map_right_iff.2 (hu.accounts.imp ?_)
    rintro a a' (rfl | ⟨ha, he, hn, ho⟩)
    · exact ⟨rfl, rfl, rfl, .inr ⟨rfl, .inr rfl⟩⟩
    · exact ⟨he, hn, ho, .inl ha⟩
  · intro e he
    rw [hact₃] at he
    rw [hst₃, hL e he, hu.ledger, AppState.signIn_ledger]
  · intro e he
    rw [hact₃] at he
    rw [hst₃, ← st.signIn_forcedRefresh identity]
    exact hu.forcedRefresh e he
  · intro e he
    rw [hst₃, hR e fun hm => he ?_, hu.reminders, AppState.signIn_reminders]
    obtain ⟨rm, hrm, rfl⟩ := List.mem_map.1 hm
    exact hdue rm hrm
  · rw [hst₃, hu.dailyHello, AppState.signIn_dailyHello]
  · rw [hst₃]
    simpa only [hu.activeEmail] using st.signIn_activeEmail identity

end RefreshFrame

/-- What a refresh may show, as far as the frame goes: a state it writes is within it. -/
def SavesWithin (F : AppState → Prop) (o : Observation) : Prop :=
  ∀ x, o = .saved x → F x

namespace Manager

/-- **Every state a refresh writes is within the frame.** Whether the refresh succeeds or not,
each state it writes to the store — a forced refresh's records midway, or the settled state at
its end — keeps the loaded state's accounts in order with their emails, names and numbers,
replaces at most the snapshot of the account read for the active email and otherwise at most
normalizes snapshots, changes the ledger and the forced-refresh records at most at the active
email and the reminder records only at the emails it reminded, keeps the daily hellos, and
changes the active email only to the signed-in one. -/
theorem refresh_saves_within_frame (m : Manager) (s : Surroundings) :
    ∀ st' ∈ savedStates (m.refreshSeen s),
      RefreshFrame s.identity s.now
        (match (m.refresh s).2 with
          | .ok res => res.reminders.map (·.email)
          | .error _ => [])
        m.loaded st' := by
  intro st' hst'
  rw [mem_savedStates] at hst'
  obtain ⟨st₁, st₂, hst₁, hread, hsettle, -, since, lastActive, b₀, hm, hext⟩ :=
    m.gather_spec s m.loaded
  -- what reading usage showed: its saves are forced refreshes of the active email
  have hgather : ∀ due, m.backend.Extends (SavesWithin (RefreshFrame s.identity s.now due m.loaded))
      (m.gather s m.loaded).1.backend := by
    intro due
    rw [hm]
    refine hext.mono ?_
    rintro o (⟨_, rfl⟩ | hf | ⟨_, rfl⟩) x hx
    · cases hx
    · subst hx
      exact RefreshFrame.of_forced hst₁ hf
    · cases hx
  have hfinal : ∀ due, (∀ rm ∈ (m.gather s m.loaded).2.2.reminders, rm.email ∈ due) →
      RefreshFrame s.identity s.now due m.loaded (m.gather s m.loaded).2.1 := by
    intro due hdue
    have h₁ := congrArg (·.1) hsettle
    have h₃ := congrArg (·.2.2) hsettle
    simp only at h₁ h₃
    rw [h₃] at hdue
    rw [h₁]
    exact RefreshFrame.of_settle hst₁ hread hdue
  rcases m.refresh_cases s with ⟨e, h⟩ | ⟨e, -, h⟩ | ⟨b, hsave, h⟩
  · -- nothing loaded, nothing written
    simp [refreshSeen, h] at hst'
  · -- the final save failed: only the forced refresh wrote
    have hall : m.backend.Extends (SavesWithin (RefreshFrame s.identity s.now [] m.loaded))
        (m.refresh s).1.backend := by
      rw [h]
      exact hgather []
    rw [h]
    exact refreshSeen_of_extends hall _ hst' st' rfl
  · obtain ⟨-, -, hrem, -⟩ := (m.gather s m.loaded).1.publish_result s b
      (m.gather s m.loaded).2.1 (m.gather s m.loaded).2.2
    obtain ⟨-, hpub⟩ := (m.gather s m.loaded).1.publish_spec s b
      (m.gather s m.loaded).2.1 (m.gather s m.loaded).2.2
      (SavesWithin (RefreshFrame s.identity s.now
        ((m.gather s m.loaded).2.2.reminders.map (·.email)) m.loaded))
      (fun _ _ hx => by cases hx) (fun _ _ => ⟨(fun _ hx => by cases hx), fun _ _ _ _ hx => by cases hx⟩)
    -- the settled state is written after what reading usage wrote, and publishing writes nothing
    have hall : m.backend.Extends (SavesWithin (RefreshFrame s.identity s.now
        ((m.gather s m.loaded).2.2.reminders.map (·.email)) m.loaded)) (m.refresh s).1.backend := by
      rw [h]
      refine ((hgather _).save hsave fun x hx => ?_).trans hpub
      cases hx
      exact hfinal _ fun rm hrm => List.mem_map_of_mem hrm
    rw [h]
    simpa only [hrem] using refreshSeen_of_extends hall _ hst' st' rfl

/-- The second of two refreshes of a stored account, reading a complete event after a first
that read none, writes its states within the frame of the state the first saved, which is the
state it loads. -/
theorem second_refresh_saves_within_frame :
    let m : Manager :=
      { runner := { thresholds := .standard }
        backend :=
          { store := { dir := ["w"] }
            files :=
              { entries := [(["w"], .dir .zero), (["w", "state.json"], .file 0 .zero)]
                contents := [(0, Utf8.bytesOf "\x7b\"accounts\": [\x7b\"email\": \"a@x.com\"\x7d]\x7d")]
                nextId := 1 } } }
    let s₁ : Surroundings := { now := ⟨63900000000, 0, 0⟩, identity := .ok "a@x.com" }
    let s₂ : Surroundings :=
      { now := ⟨63900000300, 0, 0⟩
        identity := .ok "a@x.com"
        events := fun _ => .ok (some ⟨⟨63900000300, 0, 0⟩, some ⟨⟨63900003600, 0, 0⟩, 10, 300⟩,
          some ⟨⟨63900300000, 0, 0⟩, 20, 10080⟩⟩) }
    let m₂ := (m.refresh s₁).1
    (m.refresh s₁).2.toOption.bind (·.state) = some m₂.loaded ∧
      ∃ st' ∈ savedStates (m₂.refreshSeen s₂),
        RefreshFrame s₂.identity s₂.now
          (match (m₂.refresh s₂).2 with
            | .ok res => res.reminders.map (·.email)
            | .error _ => [])
          m₂.loaded st' := by
  intro m s₁ s₂ m₂
  have hok : (m.refresh s₁).2.toOption.bind (·.state) = some m₂.loaded ∧
      0 < (savedStates (m₂.refreshSeen s₂)).length := by
    dsimp only [m₂, m, s₁, s₂]
    decide +kernel
  obtain ⟨hloads, hsaved⟩ := hok
  obtain ⟨st', hst'⟩ := List.length_pos_iff_exists_mem.1 hsaved
  exact ⟨hloads, st', hst', refresh_saves_within_frame m₂ s₂ st' hst'⟩

end Manager

end QuotaWatch
