import QuotaWatch.Proofs.Refresh.Stages
import QuotaWatch.Cli.Program
/-!
**The event cutoff after an account switch.**

Session logs do not name their account, so once the signed-in account changes the manager asks
only for events since it saw the change. A refresh records a sign-in (loaded active email,
signed-in email, clock); it switches when the account known before, the previous sign-in's or
else the stored one, differs from the signed-in email.

Main definitions:

* `UsageEvent.NotBefore` — an event at or after a cutoff;
* `Surroundings.FromLogs` — usage read from the session logs, which honour the cutoff;
* `SignIn`, `SignIn.switches`, `latestSwitch` — a refresh's sign-in, whether it switches the
  account, and the time of the last switch;
* `Manager.askedCutoffs`, `Manager.CutoffEffect` — the cutoffs a refresh asked with, and what it
  shows for one;
* `signIns`, `MemoryRun` — the sign-ins of a run of refreshes on one manager.

Main results:

* `Ingestor.next_notBefore`, `Cli.surroundings_fromLogs` — a follower of the logs honours the
  cutoff, and the program's usage source is one;
* `Manager.refresh_remembers` — one refresh extends the manager's memory by its sign-in;
* `Manager.refresh_extends` — a refresh asks for usage only with the cutoff it remembers;
* `MemoryRun.memory` — over a run the memory is the last switch of the sign-ins;
* `Manager.refresh_cutoff_law` — **the event cutoff over any run of refreshes**.
-/

namespace QuotaWatch

/-- An event read with the cutoff `since` is not older than it. -/
def UsageEvent.NotBefore (since : Option Instant) (e : UsageEvent) : Prop :=
  ∀ c, since = some c → e.timestamp.before c = false

/-! ### The logs honour the cutoff -/

namespace SessionLog

theorem latestEvent_notBefore {content : List UInt8} {since : Option Instant} {n : Int}
    {e : UsageEvent} (h : latestEvent content since n = some e) : e.NotBefore since := by
  intro c hc
  subst hc
  simp only [latestEvent] at h
  split at h
  · cases h
  · split at h
    · cases h
    · split at h
      · cases h
      · rename_i hb
        cases h
        simpa using hb

end SessionLog

namespace LogReader

/-- The newer of two events is one of them. -/
theorem newer_cases (a : Option UsageEvent) (b : UsageEvent) : newer a b = b ∨ a = some (newer a b) := by
  unfold newer
  split
  · split
    · exact .inl rfl
    · exact .inr rfl
  · exact .inl rfl

theorem scanLines_notBefore (since : Option Instant) (skip : Bool) (acc : Option UsageEvent)
    (lines : List (List UInt8)) (hacc : ∀ e, acc = some e → e.NotBefore since) :
    ∀ e, (scanLines since skip acc lines).1 = some e → e.NotBefore since := by
  fun_induction scanLines since skip acc lines with
  | case1 => exact hacc
  | case2 => exact hacc
  | case3 _ _ _ _ ih => exact ih hacc
  | case4 _ acc line _ _ _ acc' ih =>
    refine ih fun e he => ?_
    -- the event kept is the one kept before, or this line's event when it is not too old
    simp only [acc'] at he
    split at he
    · rename_i ev _
      split at he
      · split at he
        · exact hacc e he
        · rename_i s _ hb
          cases he
          rcases newer_cases acc ev with hn | hn
          · rw [hn]
            intro c hc
            cases hc
            simpa using hb
          · exact hacc _ hn
      · cases he
        rcases newer_cases acc ev with hn | hn
        · rw [hn]
          intro c hc
          cases hc
        · exact hacc _ hn
    · exact hacc e he

theorem read_notBefore {r r' : LogReader} {content : List UInt8} {since : Option Instant}
    {e : UsageEvent} (h : r.read content since = .ok (some e, r')) : e.NotBefore since := by
  simp only [read] at h
  split at h
  · cases h
  · split at h
    · cases h
    · simp only [Except.ok.injEq, Prod.mk.injEq] at h
      exact scanLines_notBefore since r.skipPartial none _ (by simp) e h.1

end LogReader

/-- **A follower of the logs honours the cutoff.** Whatever file it follows and whatever it
read before, the event it gives is not older than the cutoff it was asked with. -/
theorem Ingestor.next_notBefore (i : Ingestor) (t : FileTree) (since : Option Instant)
    {e : UsageEvent} (h : (i.next t since).1 = .ok (some e)) : e.NotBefore since := by
  simp only [next] at h
  split at h
  · cases h
  · cases h
  · split at h
    · cases h
    · split at h
      · cases h
      · split at h
        · cases h
          exact LogReader.read_notBefore ‹_›
        · split at h
          · cases h
          · split at h
            · cases h
            · split at h
              · cases h
                exact LogReader.read_notBefore ‹_›
              · cases h

/-- Surroundings whose usage is read from session logs: every event the source gives is one a
follower of the logs gives for the same cutoff, and every event of a full scan is the newest of
a log read whole. -/
def Surroundings.FromLogs (s : Surroundings) : Prop :=
  (∀ since e, s.events since = .ok (some e) →
    ∃ (i : Ingestor) (t : FileTree), (i.next t since).1 = .ok (some e)) ∧
  (∀ since e, s.scan since = .ok (some e) →
    ∃ (content : List UInt8) (n : Int), SessionLog.latestEvent content since n = some e)

/-- The program reads usage from the session logs. -/
theorem Cli.surroundings_fromLogs (m : Machine) (st : Settings) (r : Runner) :
    (Cli.surroundings m st r).FromLogs := by
  constructor
  · intro since e h
    simp only [surroundings, Machine.usageEvents] at h
    split at h
    · rename_i hnext
      exact ⟨_, _, by rw [hnext, Except.ok.inj h]⟩
    · cases h
    · cases h
  · intro since e h
    simp only [surroundings, Machine.fullScan] at h
    split at h
    · split at h
      · exact ⟨_, 0, Except.ok.inj h⟩
      · cases h
    · cases h

/-- An event the source of such surroundings gives, with or without a full scan, is not older
than the cutoff. -/
theorem Surroundings.FromLogs.notBefore {s : Surroundings} (hs : s.FromLogs) {since : Option Instant}
    {e : UsageEvent} (h : s.events since = .ok (some e) ∨ s.scan since = .ok (some e)) :
    e.NotBefore since := by
  rcases h with h | h
  · obtain ⟨i, t, hi⟩ := hs.1 since e h
    exact i.next_notBefore t since hi
  · obtain ⟨c, n, hc⟩ := hs.2 since e h
    exact SessionLog.latestEvent_notBefore hc

/-! ### Sign-ins and switches -/

/-- What a refresh saw when it read an identity: the active email of the state it loaded, the
signed-in email, and its clock. -/
structure SignIn where
  stored : String
  email : String
  at_ : Instant

namespace SignIn

/-- The account known before the sign-in `x`, after the sign-ins `before`: the last signed-in
email when it is not empty, otherwise the stored active email. -/
def known (before : List SignIn) (x : SignIn) : String :=
  match before.getLast? with
  | some y => if y.email = "" then x.stored else y.email
  | none => x.stored

/-- Whether a sign-in switched accounts: there was a known account, and it is not the one
signed in. -/
def switches (before : List SignIn) (x : SignIn) : Bool :=
  known before x != "" && known before x != x.email

end SignIn

/-- The time of the latest sign-in of `h` that switched accounts, each judged against the
sign-ins before it; none when none did. -/
def latestSwitch (h : List SignIn) : Option Instant :=
  ((h.zipIdx.filter fun (x, j) => x.switches (h.take j)).getLast?).map (·.1.at_)

/-- The last signed-in email of a history, or the empty email. -/
def lastEmail (h : List SignIn) : String := (h.getLast?.map (·.email)).getD ""

/-- A new sign-in sets the latest switch to its own time exactly when it switches. -/
theorem latestSwitch_concat (h : List SignIn) (x : SignIn) :
    latestSwitch (h ++ [x]) = if x.switches h then some x.at_ else latestSwitch h := by
  have hpre : (h.zipIdx.filter fun (y, j) => y.switches ((h ++ [x]).take j)) =
      h.zipIdx.filter fun (y, j) => y.switches (h.take j) := by
    refine List.filter_congr fun ⟨y, j⟩ hy => ?_
    -- every earlier sign-in is judged against the same prefix
    have hj : j < h.length := by simpa using (List.mem_zipIdx hy).2.1
    simp [List.take_append_of_le_length (Nat.le_of_lt hj)]
  simp only [latestSwitch, List.zipIdx_append, List.zipIdx_singleton, List.filter_append, hpre]
  by_cases hx : x.switches h
  · simp [hx]
  · simp [hx]

@[simp] theorem lastEmail_concat (h : List SignIn) (x : SignIn) : lastEmail (h ++ [x]) = x.email := by
  simp [lastEmail]

/-! ### The manager's memory -/

namespace Manager

/-- The sign-in a refresh records: one when it loads its state and reads an identity. -/
def signIn? (m : Manager) (s : Surroundings) : Option SignIn :=
  match m.backend.load, s.identity with
  | .ok _, .ok e => some ⟨m.loaded.active, e, s.now⟩
  | _, _ => none

theorem trackActive_since (m : Manager) (stored current : String) (now : Instant) :
    (m.trackActive stored current now).since =
      if (if m.lastActive = "" then stored else m.lastActive) ≠ "" ∧
        (if m.lastActive = "" then stored else m.lastActive) ≠ current then some now else m.since := by
  unfold trackActive
  dsimp only
  generalize (if m.lastActive = "" then stored else m.lastActive) = prev
  by_cases h : prev ≠ "" ∧ prev ≠ current
  · simp [h]
  · simp only [h, if_false]
    split
    · simp_all
    · rfl

@[simp] theorem trackActive_lastActive (m : Manager) (stored current : String) (now : Instant) :
    (m.trackActive stored current now).lastActive = current := by
  unfold trackActive
  dsimp only

theorem readUsage_memory (m : Manager) (s : Surroundings) (st : AppState) (hasAuth : Bool) :
    (m.readUsage s st hasAuth).1.since = m.since ∧
      (m.readUsage s st hasAuth).1.lastActive = m.lastActive := by
  obtain ⟨-, b, hb, -⟩ := m.readUsage_spec s st hasAuth
  rw [hb]
  exact ⟨rfl, rfl⟩

theorem gather_memory (m : Manager) (s : Surroundings) (st : AppState) :
    (m.gather s st).1.since = (m.identify s st).1.since ∧
      (m.gather s st).1.lastActive = (m.identify s st).1.lastActive :=
  readUsage_memory _ s _ _

theorem publish_memory (m : Manager) (s : Surroundings) (b : Backend) (st : AppState) (g : Gathered) :
    (m.publish s b st g).1.since = m.since ∧ (m.publish s b st g).1.lastActive = m.lastActive :=
  ⟨rfl, rfl⟩

/-- A refresh remembers what reading the identity of its loaded state left, or nothing new
when it could not load. -/
theorem refresh_memory (m : Manager) (s : Surroundings) :
    ((m.refresh s).1.since, (m.refresh s).1.lastActive) =
      match m.backend.load with
      | .ok _ => ((m.identify s m.loaded).1.since, (m.identify s m.loaded).1.lastActive)
      | .error _ => (m.since, m.lastActive) := by
  have hloaded : ∀ st, m.backend.load = .ok st → m.loaded = st.getD {} := by
    intro st h
    simp [loaded, h]
  unfold refresh
  split
  · rename_i e hload
    simp [hload]
  · rename_i stored hload
    simp only [hload, hloaded stored hload]
    split <;> simp [publish_memory, gather_memory]

/-- **One refresh extends the memory by its sign-in.** A manager that remembers the latest
switch and the last signed-in email of a history remembers them, after a refresh, of the
history extended by the refresh's sign-in. -/
theorem refresh_remembers {h : List SignIn} {m : Manager} (hs : m.since = latestSwitch h)
    (hl : m.lastActive = lastEmail h) (s : Surroundings) :
    (m.refresh s).1.since = latestSwitch (h ++ (m.signIn? s).toList) ∧
      (m.refresh s).1.lastActive = lastEmail (h ++ (m.signIn? s).toList) := by
  have hmem := m.refresh_memory s
  unfold signIn?
  split
  · rename_i st e hload hid
    rw [hload] at hmem
    simp only [identify, hid, Prod.mk.injEq] at hmem
    rw [hmem.1, hmem.2, trackActive_since, trackActive_lastActive, Option.toList_some,
      latestSwitch_concat, lastEmail_concat, ← hs]
    refine ⟨?_, rfl⟩
    -- the account the manager compares with is the one known before the sign-in
    have hknown : (if m.lastActive = "" then m.loaded.active else m.lastActive) =
        SignIn.known h ⟨m.loaded.active, e, s.now⟩ := by
      rw [hl]
      unfold lastEmail SignIn.known
      cases h.getLast? with
      | none => simp
      | some y => by_cases hy : y.email = "" <;> simp [hy]
    rw [hknown]
    simp [SignIn.switches]
  · rename_i hnot
    rw [Option.toList_none, List.append_nil, ← hs, ← hl]
    -- without a sign-in the memory is what reading the identity left, which is unchanged
    revert hmem
    cases hload : m.backend.load with
    | error e => simp
    | ok st =>
      cases hid : s.identity with
      | ok e => exact (hnot st e hload hid).elim
      | error t => simp [identify, hid]

/-! ### What a refresh shows -/

/-- The cutoffs the usage source was asked with, among some observations, in order. -/
def askedCutoffs (obs : List Observation) : List (Option Instant) :=
  obs.filterMap fun
    | .asked since => some since
    | _ => none

@[simp] theorem mem_askedCutoffs {since : Option Instant} {obs : List Observation} :
    since ∈ askedCutoffs obs ↔ .asked since ∈ obs := by
  simp only [askedCutoffs, List.mem_filterMap]
  constructor
  · rintro ⟨o, ho, h⟩
    cases o <;> simp only [reduceCtorEq, Option.some.injEq] at h
    exact h ▸ ho
  · exact fun h => ⟨_, h, rfl⟩

/-- What a refresh that asks with the cutoff `c` may show: questions to the usage source only
with `c`, and history rows only of snapshots captured when an event the source gave for `c`
was written; anything else it shows is free. -/
def CutoffEffect (s : Surroundings) (c : Option Instant) : Observation → Prop
  | .asked since => since = c
  | .snapshotStored r => ∃ e, (s.events c = .ok (some e) ∨ s.scan c = .ok (some e)) ∧
      r.capturedAt = e.timestamp
  | _ => True

/-- A snapshot read from an event is captured when the event was written. -/
theorem Snapshot.ofEvent_capturedAt {e : UsageEvent} {source : String} {snap : Snapshot}
    (h : Snapshot.ofEvent (some e) source = .ok snap) : snap.capturedAt = e.timestamp := by
  unfold Snapshot.ofEvent at h
  split at h
  · cases h
    rename_i heq
    cases heq
    rfl
  · cases h

/-- A merge that changes the snapshot takes the capture time of the new one. -/
theorem Snapshot.merge_capturedAt {prev : Option Snapshot} {next : Snapshot}
    (h : (Snapshot.merge prev next).2 = true) : (Snapshot.merge prev next).1.capturedAt = next.capturedAt := by
  unfold Snapshot.merge at h ⊢
  split
  · rfl
  · split
    · simp_all
    · rfl

theorem ingest_extends (m : Manager) (s : Surroundings) (st : AppState) (acc : Account) (hasAuth : Bool) :
    m.backend.Extends (CutoffEffect s m.since) (m.ingest s st acc hasAuth).1.backend := by
  have hasked : m.backend.Extends (CutoffEffect s m.since) (m.backend.note (.asked m.since)) :=
    (Backend.Extends.refl _).note rfl
  simp only [ingest]
  split
  · exact hasked
  · rename_i ev hev
    split
    · exact hasked
    · exact hasked
    · rename_i e he
      -- the event came from the source, or from a full scan when the source had none
      have hsrc : s.events m.since = .ok (some e) ∨ s.scan m.since = .ok (some e) := by
        split at he
        · exact .inr he
        · cases he
          exact .inl hev
      split
      · exact hasked.trans ((m.runner.forcedRefreshFor_effects s _ _ st acc.email hasAuth).2.mono
          fun o ho => by cases o <;> first | exact ho.elim | trivial)
      · rename_i snap hsnap
        split
        · exact hasked
        · rename_i hc
          refine hasked.recordSnapshot fun _ => ⟨e, hsrc, ?_⟩
          have hchanged : (Snapshot.merge acc.lastSnapshot snap).2 = true := by simpa using hc
          simp only [SnapshotRecord.ofSnapshot]
          rw [Snapshot.merge_capturedAt hchanged, Snapshot.ofEvent_capturedAt hsnap]

theorem readUsage_extends (m : Manager) (s : Surroundings) (st : AppState) (hasAuth : Bool) :
    m.backend.Extends (CutoffEffect s m.since) (m.readUsage s st hasAuth).1.backend := by
  unfold readUsage
  split
  · exact m.ingest_extends s st _ hasAuth
  · exact .refl _

theorem identify_backend (m : Manager) (s : Surroundings) (st : AppState) :
    (m.identify s st).1.backend = m.backend := by
  obtain ⟨since, lastActive, h⟩ := m.identify_manager s st
  rw [h]

theorem gather_extends (m : Manager) (s : Surroundings) (st : AppState) :
    m.backend.Extends (CutoffEffect s (m.identify s st).1.since) (m.gather s st).1.backend := by
  have h := (m.identify s st).1.readUsage_extends s (m.identify s st).2.1 (m.identify s st).2.2.1
  rwa [identify_backend] at h

/-- **What a refresh shows.** It asks the usage source only with the cutoff it remembers after
the refresh, and writes history rows only of events the source gave for that cutoff. -/
theorem refresh_extends (m : Manager) (s : Surroundings) :
    m.backend.Extends (CutoffEffect s (m.refresh s).1.since) (m.refresh s).1.backend := by
  rcases m.refresh_cases s with ⟨e, h⟩ | ⟨e, -, h⟩ | ⟨b, hsave, h⟩
  · rw [h]
    exact .refl _
  · rw [h, (gather_memory ..).1]
    exact m.gather_extends s m.loaded
  · rw [h, (publish_memory ..).1, (gather_memory ..).1]
    -- the save and what publishing shows are free
    exact ((m.gather_extends s m.loaded).save hsave trivial).trans
      ((m.gather s m.loaded).1.publish_spec s b _ _ _ (fun _ => trivial)
        fun _ _ => ⟨trivial, fun _ _ _ => trivial⟩).2

end Manager

/-! ### Runs of refreshes -/

/-- The sign-ins recorded by a list of refreshes, in order. -/
def signIns (steps : List (Manager × Surroundings)) : List SignIn :=
  steps.filterMap fun (m, s) => m.signIn? s

@[simp] theorem signIns_nil : signIns [] = [] := rfl

@[simp] theorem signIns_cons (m : Manager) (s : Surroundings) (l : List (Manager × Surroundings)) :
    signIns ((m, s) :: l) = (m.signIn? s).toList ++ signIns l := by
  cases h : m.signIn? s <;> simp [signIns, h]

@[simp] theorem signIns_append (l l' : List (Manager × Surroundings)) :
    signIns (l ++ l') = signIns l ++ signIns l' :=
  List.filterMap_append

/-- Refreshes on one manager, in order: each starts from the event cutoff and the last active
email that the refresh before left (`mem` for the first), whatever else changed in between —
the stored state, the backend, the surroundings. -/
def MemoryRun : Option Instant × String → List (Manager × Surroundings) → Prop
  | _, [] => True
  | mem, (m, s) :: rest =>
    (m.since, m.lastActive) = mem ∧ MemoryRun ((m.refresh s).1.since, (m.refresh s).1.lastActive) rest

/-- Along a run, every refresh starts from the latest switch and the last signed-in email of
the sign-ins before it. -/
theorem MemoryRun.memory {h : List SignIn} :
    ∀ {pre post : List (Manager × Surroundings)} {m : Manager} {s : Surroundings},
      MemoryRun (latestSwitch h, lastEmail h) (pre ++ (m, s) :: post) →
      m.since = latestSwitch (h ++ signIns pre) ∧ m.lastActive = lastEmail (h ++ signIns pre)
  | [], _, m, s, hrun => by
    obtain ⟨hmem, -⟩ := hrun
    simp only [Prod.mk.injEq] at hmem
    simpa using hmem
  | (m₀, s₀) :: pre, post, m, s, hrun => by
    obtain ⟨hmem, hrest⟩ := hrun
    simp only [Prod.mk.injEq] at hmem
    -- the first refresh extends the history by its own sign-in
    obtain ⟨hs, hl⟩ := m₀.refresh_remembers hmem.1 hmem.2 s₀
    rw [hs, hl] at hrest
    have := MemoryRun.memory hrest
    simpa [List.append_assoc] using this

/-- **The event cutoff over any run of refreshes.** Along refreshes on one manager that starts
fresh, with any identities and any stored states, every refresh asks the usage source for
events since the time of the latest switch of accounts among the sign-ins up to and including
its own, and since no time when there was none. When its usage is read from the session logs
(with or without a full scan), no snapshot it merges into an account — each written to the
history as it is merged — was captured before that switch. -/
theorem Manager.refresh_cutoff_law {steps : List (Manager × Surroundings)}
    (hrun : MemoryRun (none, "") steps) {pre post : List (Manager × Surroundings)} {m : Manager}
    {s : Surroundings} (hat : steps = pre ++ (m, s) :: post) :
    (∀ since ∈ askedCutoffs (m.refreshSeen s), since = latestSwitch (signIns (pre ++ [(m, s)]))) ∧
    (s.FromLogs → ∀ r t, Observation.snapshotStored r ∈ m.refreshSeen s →
      latestSwitch (signIns (pre ++ [(m, s)])) = some t → r.capturedAt.before t = false) := by
  subst hat
  obtain ⟨hs, hl⟩ := @MemoryRun.memory [] pre post m s hrun
  obtain ⟨hs', -⟩ := m.refresh_remembers hs hl s
  have hcut : (m.refresh s).1.since = latestSwitch (signIns (pre ++ [(m, s)])) := by
    simpa using hs'
  have hseen := refreshSeen_of_extends (m.refresh_extends s)
  refine ⟨fun since hasked => hcut ▸ hseen _ (mem_askedCutoffs.1 hasked), fun hlogs r t hrow ht => ?_⟩
  -- the row is of an event the logs gave for the cutoff, which is not older than it
  obtain ⟨e, hsrc, hat⟩ := hseen _ hrow
  rw [hat]
  exact hlogs.notBefore hsrc t (hcut.trans ht)

/-- Two refreshes on a fresh manager, the second signed in as another account. -/
theorem Manager.fresh_run_cutoff_law :
    let m₀ : Manager := { runner := default, backend := { store := default, files := {} } }
    let s₀ : Surroundings := { identity := .ok "a@x.com" }
    let s₁ : Surroundings := { identity := .ok "b@x.com" }
    MemoryRun (none, "") [(m₀, s₀), ((m₀.refresh s₀).1, s₁)] ∧
      (∀ since ∈ askedCutoffs ((m₀.refresh s₀).1.refreshSeen s₁),
        since = latestSwitch (signIns ([(m₀, s₀)] ++ [((m₀.refresh s₀).1, s₁)]))) ∧
      (s₁.FromLogs → ∀ r t, Observation.snapshotStored r ∈ (m₀.refresh s₀).1.refreshSeen s₁ →
        latestSwitch (signIns ([(m₀, s₀)] ++ [((m₀.refresh s₀).1, s₁)])) = some t →
        r.capturedAt.before t = false) := by
  intro m₀ s₀ s₁
  have hrun : MemoryRun (none, "") [(m₀, s₀), ((m₀.refresh s₀).1, s₁)] := ⟨rfl, rfl, trivial⟩
  exact ⟨hrun, @Manager.refresh_cutoff_law _ hrun [(m₀, s₀)] [] _ _ rfl⟩

/-- The empty email is no account. On a store whose state has `a@x.com` configured, a refresh
that reads that identity when no account was active asks with no cutoff at all, although the
email differs from the empty stored one; and after a refresh that read the empty identity over
`a@x.com`, signing in as `a@x.com` again is no switch: the next refresh still asks with the
time of the first. -/
theorem Manager.empty_email_is_no_switch :
    let st : Store := { dir := ["d"] }
    let tree : String → FileTree := fun text =>
      ((({} : FileTree).mkdirAll ["d"] Instant.zero).toOption.getD {}).putBytes st.path
        (Utf8.bytesOf text) Instant.zero |>.toOption.getD {}
    let fresh : FileTree → Manager := fun t => { runner := default, backend := { store := st, files := t } }
    let configured := "\x7b\"accounts\":[\x7b\"email\":\"a@x.com\",\"codexNumber\":1\x7d]"
    let m₀ := fresh (tree (configured ++ "\x7d"))
    let m₁ := fresh (tree (configured ++ ",\"activeEmail\":\"a@x.com\"\x7d"))
    let s₁ : Surroundings := { now := ⟨100, 0, 0⟩, identity := .ok "" }
    let s₂ : Surroundings := { now := ⟨200, 0, 0⟩, identity := .ok "a@x.com" }
    askedCutoffs (m₀.refreshSeen s₂) = [none] ∧
      askedCutoffs ((m₁.refresh s₁).1.refreshSeen s₂) = [some ⟨100, 0, 0⟩] := by
  decide +kernel

end QuotaWatch
