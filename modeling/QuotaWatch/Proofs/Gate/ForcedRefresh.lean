import QuotaWatch.Proofs.Gate.DailyHello
/-!
**Forced refreshes are throttled over any run.**

The runner decides at one clock reading and saves the attempt before sending; once the send is
done it reads the clock again and saves the outcome. The store keeps the last attempt and the last
failure, which carry the throttle from one refresh to the next: two sends for one account are at
least the minimum interval apart, and at least the cool-down after a failure saved in between,
counted from the reading at which it was marked. The clock's readings, both of every step, go
forward.

Main definitions:

* `ForcedStep` — one forced refresh of a run: its surroundings, store and call, with its two
  clock readings `ForcedStep.now` and `ForcedStep.done`;
* `ForcedStep.sent`, `ForcedStep.failureSaved` — whether a step sent a refresh, and whether it
  saved a failure;
* `ForcedRun` — a run of forced refreshes on one store, each loading what the last one saved;
* `ForcedTracks` — what the stored record says about the sends of a run so far;
* `ForcedStep.Gated`, `ForcedStep.Throttled` — the bounds on one send, and on two in order.

Main results:

* `ForcedRefreshPolicy.decide_allowed`, `ForcedRefreshPolicy.decide_blocked` — what the gate's
  answer says about the record;
* `Runner.forcedRefreshFor_cases` — the four ways a forced refresh ends, with what it shows;
* `ForcedTracks.quiet`, `ForcedTracks.sent` — one step keeps the record's account of the run;
* `ForcedStep.throttle_step`, `ForcedRun.throttled` — one step and a whole run keep the throttle;
* `forced_refreshes_throttled` — **forced refreshes are throttled over any run**.
-/

namespace QuotaWatch

namespace ForcedRefreshRecord

@[simp] theorem markSuccess_lastAttempt (r : ForcedRefreshRecord) (at_ : Instant) :
    (r.markSuccess at_).lastAttempt = r.lastAttempt := rfl

@[simp] theorem markSuccess_lastFailure (r : ForcedRefreshRecord) (at_ : Instant) :
    (r.markSuccess at_).lastFailure = r.lastFailure := rfl

@[simp] theorem markFailure_lastAttempt (r : ForcedRefreshRecord) (at_ : Instant) :
    (r.markFailure at_).lastAttempt = r.lastAttempt := rfl

@[simp] theorem markFailure_lastFailure (r : ForcedRefreshRecord) (at_ : Instant) :
    (r.markFailure at_).lastFailure = some at_ := rfl

end ForcedRefreshRecord

namespace ForcedRefreshPolicy

variable (p : ForcedRefreshPolicy)

/-- **What an allowed forced refresh saw.** The new record notes the attempt now, there is a
credential, the weekly quota is not depleted, and both cooldowns have passed. -/
theorem decide_allowed {t : Thresholds} {now : Instant} {r : ForcedRefreshRecord} {hasAuth : Bool}
    {weekly : Option Percent} (h : (p.decide t now r hasAuth weekly).reason = none) :
    (p.decide t now r hasAuth weekly).record = { r with lastAttempt := some now } ∧
      hasAuth = true ∧ (weekly.any fun w => w.atMost t.depleted) = false ∧
      cooldownBlocks now r.lastAttempt p.minimumInterval = false ∧
      cooldownBlocks now r.lastFailure p.failureCooldown = false := by
  unfold ForcedRefreshPolicy.decide at h ⊢
  obtain ⟨heq, hall⟩ := decideGate_of_allowed h
  simp only [List.mem_cons, List.not_mem_nil, or_false, forall_eq_or_imp, forall_eq,
    ite_eq_right_iff, reduceCtorEq, imp_false] at hall
  obtain ⟨hauth, hdepleted, hattempt, hfailure⟩ := hall
  rw [heq]
  refine ⟨rfl, by simpa using hauth, ?_, by simpa using hattempt, by simpa using hfailure⟩
  cases weekly <;> simp_all

theorem decide_blocked {t : Thresholds} {now : Instant} {r : ForcedRefreshRecord} {hasAuth : Bool}
    {weekly : Option Percent} {why : BlockReason} (h : (p.decide t now r hasAuth weekly).reason = some why) :
    (p.decide t now r hasAuth weekly).record = r := by
  unfold ForcedRefreshPolicy.decide at h ⊢
  exact decideGate_of_blocked h

end ForcedRefreshPolicy

namespace Runner

/-- **A forced refresh, by its outcome.** It shows nothing; or the gate allowed it at the
decision reading `now`, the attempt was saved first and the message went out after, and then the
outcome, noted at the reading taken once the message was sent, was saved or its save failed. -/
theorem forcedRefreshFor_cases (r : Runner) (s : Surroundings) (now : Instant) (b : Backend)
    (st : AppState) (email : String) (hasAuth : Bool) :
    b.added (r.forcedRefreshFor s now b st email hasAuth).1 = [] ∨
      ∃ d rest, d = r.forced.decide r.thresholds now ((st.forcedRefresh.get? email).getD {})
          hasAuth ((st.account? email).bind (·.remaining .weekly)) ∧
        d.reason = none ∧
        b.added (r.forcedRefreshFor s now b st email hasAuth).1 =
          .saved { st with forcedRefresh := st.forcedRefresh.set email d.record } ::
            .sent r.model r.prompt :: rest ∧
        (savedStates rest = [] ∨
          savedStates rest = [{ st with forcedRefresh := ((st.forcedRefresh.set email d.record).set email
            (if s.sendError.isSome then d.record.markFailure (s.clock .sent)
              else d.record.markSuccess (s.clock .sent))) }]) := by
  simp only [forcedRefreshFor]
  generalize hd : r.forced.decide r.thresholds now ((st.forcedRefresh.get? email).getD {}) hasAuth
    ((st.account? email).bind (·.remaining .weekly)) = d
  split
  · exact .inl (Backend.added_self b)
  · rename_i hr
    cases hs : b.save (s.clock .recordSave) { st with forcedRefresh := st.forcedRefresh.set email d.record } with
    | error e => exact .inl (Backend.added_self b)
    | ok b₁ =>
        -- the attempt is saved, the message goes out, and the outcome is saved if it can be
        obtain ⟨hseen₁, -⟩ := Backend.save_eq_ok hs
        cases he : s.sendError with
        | none =>
            cases hs₂ : (b₁.note (.sent r.model r.prompt)).save (s.clock .outcomeSave) { st with
                forcedRefresh := (st.forcedRefresh.set email d.record).set email
                  (d.record.markSuccess (s.clock .sent)) } with
            | error e =>
                refine .inr ⟨d, [.runStored
                  { timestamp := now, email, kind := "forcedRefresh", outcome := "sent", detail := "" }],
                  rfl, hr, Backend.added_eq ?_, .inl rfl⟩
                simp [hs₂, hseen₁, Backend.recordRun_seen]
            | ok b₂ =>
                obtain ⟨hseen₂, -⟩ := Backend.save_eq_ok hs₂
                refine .inr ⟨d, [.saved
                  { st with forcedRefresh :=
                      (st.forcedRefresh.set email d.record).set email (d.record.markSuccess (s.clock .sent)) },
                  .runStored
                  { timestamp := now, email, kind := "forcedRefresh", outcome := "sent", detail := "" }],
                  rfl, hr, Backend.added_eq ?_, .inr rfl⟩
                simp [hs₂, hseen₂, hseen₁, Backend.recordRun_seen]
        | some t =>
            cases hs₂ : (b₁.note (.sent r.model r.prompt)).save (s.clock .outcomeSave) { st with
                forcedRefresh := (st.forcedRefresh.set email d.record).set email
                  (d.record.markFailure (s.clock .sent)) } with
            | error e =>
                refine .inr ⟨d, [.runStored
                  { timestamp := now, email, kind := "forcedRefresh", outcome := "failed", detail := t }],
                  rfl, hr, Backend.added_eq ?_, .inl rfl⟩
                simp [hs₂, hseen₁, Backend.recordRun_seen]
            | ok b₂ =>
                obtain ⟨hseen₂, -⟩ := Backend.save_eq_ok hs₂
                refine .inr ⟨d, [.saved
                  { st with forcedRefresh :=
                      (st.forcedRefresh.set email d.record).set email (d.record.markFailure (s.clock .sent)) },
                  .runStored
                  { timestamp := now, email, kind := "forcedRefresh", outcome := "failed", detail := t }],
                  rfl, hr, Backend.added_eq ?_, .inr rfl⟩
                simp [hs₂, hseen₂, hseen₁, Backend.recordRun_seen]

theorem weeklyDepleted_eq (r : Runner) (a : Option Account) :
    r.weeklyDepleted a = (a.bind (·.remaining .weekly)).any fun w => w.atMost r.thresholds.depleted := by
  unfold weeklyDepleted
  cases a.bind (·.remaining .weekly) <;> rfl

/-- Without a credential a forced refresh shows nothing. -/
theorem forcedRefreshFor_no_auth (r : Runner) (s : Surroundings) (now : Instant) (b : Backend)
    (st : AppState) (email : String) : b.added (r.forcedRefreshFor s now b st email false).1 = [] := by
  rcases r.forcedRefreshFor_cases s now b st email false with h | ⟨d, rest, hd, hr, -, -⟩
  · exact h
  · rw [hd] at hr
    have hauth := (r.forced.decide_allowed hr).2.1
    cases hauth

/-- A whole forced-refresh run on a store holding `held` is the forced refresh of the signed-in
email from `held` with a credential, or, with no identity, that of no email without one; either
decides at the run's first reading. -/
theorem runForcedRefresh_eq (r : Runner) (s : Surroundings) (b : Backend) {held : AppState}
    (hload : b.load = .ok (some held)) :
    (r.runForcedRefresh s b).1 = match s.identity with
      | .ok email => (r.forcedRefreshFor s s.now b held email true).1
      | .error _ => (r.forcedRefreshFor s s.now b held "" false).1 := by
  simp only [runForcedRefresh, hload]
  cases s.identity <;> rfl

/-- **A forced refresh that sends.** It was allowed on the record it started from: with a
credential, a quota that is not depleted and both cooldowns passed at its decision reading `now`.
It saved the attempt at `now` before the message; and the record it leaves has that attempt, and
the last failure it started from unless it saved a failure of its own, noted at the reading taken
once the message was sent. -/
theorem forcedRefreshFor_sent {r : Runner} {s : Surroundings} {now : Instant} {b : Backend}
    {st : AppState} {email : String} {hasAuth : Bool}
    (hsent : (b.added (r.forcedRefreshFor s now b st email hasAuth).1).any Observation.isSend = true) :
    hasAuth = true ∧ r.weeklyDepleted (st.account? email) = false ∧
      cooldownBlocks now ((st.forcedRefresh.get? email).getD {}).lastAttempt
        r.forced.minimumInterval = false ∧
      cooldownBlocks now ((st.forcedRefresh.get? email).getD {}).lastFailure
        r.forced.failureCooldown = false ∧
      (∃ st₁ rest, b.added (r.forcedRefreshFor s now b st email hasAuth).1 =
          .saved st₁ :: .sent r.model r.prompt :: rest ∧
        st₁.forcedRefresh.get? email = some { (st.forcedRefresh.get? email).getD {} with lastAttempt := some now }) ∧
      (((heldAfter st (b.added (r.forcedRefreshFor s now b st email hasAuth).1)).forcedRefresh.get? email).getD {}).lastAttempt = some now ∧
      ((((heldAfter st (b.added (r.forcedRefreshFor s now b st email hasAuth).1)).forcedRefresh.get? email).getD {}).lastFailure =
          ((st.forcedRefresh.get? email).getD {}).lastFailure ∨
        (((heldAfter st (b.added (r.forcedRefreshFor s now b st email hasAuth).1)).forcedRefresh.get? email).getD {}).lastFailure =
          some (s.clock .sent)) ∧
      ((s.sendError.isSome && (savedStates (b.added (r.forcedRefreshFor s now b st email hasAuth).1)).length == 2) = true →
        (((heldAfter st (b.added (r.forcedRefreshFor s now b st email hasAuth).1)).forcedRefresh.get? email).getD {}).lastFailure =
          some (s.clock .sent)) := by
  rcases r.forcedRefreshFor_cases s now b st email hasAuth with hnone | ⟨d, rest, hd, hr, hshown, hrest⟩
  · rw [hnone] at hsent
    cases hsent
  rw [hd] at hr
  obtain ⟨hrec, hauth, hweekly, hattempt, hfailure⟩ := r.forced.decide_allowed hr
  rw [← hd] at hrec
  refine ⟨hauth, by rw [weeklyDepleted_eq]; exact hweekly, hattempt, hfailure,
    ⟨_, rest, hshown, by simp [hrec]⟩, ?_⟩
  rw [hshown]
  rcases hrest with hrest | hrest
  · -- the outcome was not saved: the store holds the attempt, and no failure was saved
    rw [heldAfter_saved_cons (show savedStates (.sent r.model r.prompt :: rest) = [] from hrest),
      savedStates_saved_sent, hrest]
    simp [hrec]
  · -- the outcome was saved: the store holds it, a success or a failure at the later reading
    rw [heldAfter_of_savedStates (l := [_]) (by rw [savedStates_saved_sent, hrest]; rfl),
      savedStates_saved_sent, hrest]
    cases s.sendError <;> simp [hrec, ForcedRefreshRecord.markFailure, ForcedRefreshRecord.markSuccess]

end Runner

/-! ### Runs of forced refreshes for one account -/

/-- How a forced refresh for an account is asked for: a whole run, which loads the stored state
and reads the signed-in identity, or a call on the stored state, with a credential or without. -/
inductive ForcedCall where
  | load
  | given (hasAuth : Bool)

/-- One forced refresh of a run: its clock and outside answers, the backend it starts from, how
it is asked for, and the stored state it works on. -/
structure ForcedStep where
  surroundings : Surroundings
  backend : Backend
  call : ForcedCall
  state : AppState

namespace ForcedStep

variable (r : Runner) (email : String) (x : ForcedStep)

/-- The reading a step decides at. -/
def now : Instant := x.surroundings.now

/-- The reading a step takes once its message has been sent, which its outcome notes. -/
def done : Instant := x.surroundings.clock .sent

/-- The clock readings a step takes that its record keeps: its decision, then its outcome. -/
def readings : List Instant := [x.now, x.done]

/-- Whether a step has a credential: an identity it read, or the one it was given. -/
def hasAuth : Bool :=
  match x.call, x.surroundings.identity with
  | .load, .ok _ => true
  | .load, .error _ => false
  | .given h, _ => h

/-- What a step for `email` showed: the observations it added to its backend's log. -/
def shown : List Observation :=
  match x.call with
  | .load => x.backend.added (r.runForcedRefresh x.surroundings x.backend).1
  | .given h => x.backend.added (r.forcedRefreshFor x.surroundings x.now x.backend x.state email h).1

/-- Whether a step sent its message. -/
def sent : Bool := (x.shown r email).any Observation.isSend

/-- Whether a step's message failed and its failure was saved: it saved both the attempt and the
outcome. -/
def failureSaved : Bool :=
  x.surroundings.sendError.isSome && (savedStates (x.shown r email)).length == 2

/-- Readings that never go back, read step by step: within a step, the decision comes no later
than the outcome, and a step's readings come no later than the next one's decision. -/
theorem readings_forward {steps : List ForcedStep}
    (h : (steps.flatMap readings).Pairwise fun a b => a.nanos ≤ b.nanos) :
    (∀ x ∈ steps, x.now.nanos ≤ x.done.nanos) ∧
      steps.Pairwise fun x y => x.now.nanos ≤ y.now.nanos ∧ x.done.nanos ≤ y.now.nanos := by
  rw [List.pairwise_flatMap] at h
  obtain ⟨hwithin, hbetween⟩ := h
  refine ⟨fun x hx => by simpa [readings] using hwithin x hx, hbetween.imp fun hxy => ?_⟩
  exact ⟨hxy _ (by simp [readings]) _ (by simp [readings]), hxy _ (by simp [readings]) _ (by simp [readings])⟩

end ForcedStep

/-- A run of forced refreshes for `email` on one store, from the stored state `held`: each step
works on the state the steps before it last saved, and a whole run loads it from its backend
and reads `email` or no identity. -/
def ForcedRun (r : Runner) (email : String) : AppState → List ForcedStep → Prop
  | _, [] => True
  | held, x :: rest => x.state = held ∧
      (x.call = .load → x.backend.load = .ok (some held) ∧
        (x.surroundings.identity = .ok email ∨ ∃ t, x.surroundings.identity = .error t)) ∧
      ForcedRun r email (heldAfter held (x.shown r email)) rest

/-- A step of a run for `email` is the forced refresh of `email` from the stored state with the
step's credential, or shows nothing and has no credential. -/
theorem ForcedStep.shown_cases {r : Runner} {email : String} {held : AppState} {x : ForcedStep}
    (hx : x.state = held)
    (hload : x.call = .load → x.backend.load = .ok (some held) ∧
      (x.surroundings.identity = .ok email ∨ ∃ t, x.surroundings.identity = .error t)) :
    x.shown r email =
        x.backend.added (r.forcedRefreshFor x.surroundings x.now x.backend held email x.hasAuth).1 ∨
      x.shown r email = [] := by
  obtain ⟨s, b, c, st⟩ := x
  cases c with
  | given h =>
      left
      simp only at hx
      simp [shown, hasAuth, hx]
  | load =>
      obtain ⟨hl, hid⟩ := hload rfl
      rcases hid with hid | ⟨t, hid⟩
      · left
        simp only at hid
        simp [shown, hasAuth, now, hid, Runner.runForcedRefresh_eq r s b hl]
      · right
        simp only at hid
        simp only [shown, Runner.runForcedRefresh_eq r s b hl, hid]
        exact Runner.forcedRefreshFor_no_auth ..

/-- A step of a run for `email` shows nothing, or it sent, and it is the forced refresh of `email`
from the stored state with the step's credential. -/
theorem ForcedStep.quiet_or_sent {r : Runner} {email : String} {held : AppState} {x : ForcedStep}
    (hx : x.state = held)
    (hload : x.call = .load → x.backend.load = .ok (some held) ∧
      (x.surroundings.identity = .ok email ∨ ∃ t, x.surroundings.identity = .error t)) :
    x.shown r email = [] ∨ (x.sent r email = true ∧ x.shown r email =
      x.backend.added (r.forcedRefreshFor x.surroundings x.now x.backend held email x.hasAuth).1) := by
  rcases ForcedStep.shown_cases hx hload with hcall | hnone
  · rcases r.forcedRefreshFor_cases x.surroundings x.now x.backend held email x.hasAuth with
      hnone | ⟨d, rest, -, -, hshown, -⟩
    · exact .inl (hcall.trans hnone)
    · refine .inr ⟨?_, hcall⟩
      simp [ForcedStep.sent, hcall, hshown, Observation.isSend]
  · exact .inl hnone

/-- What the stored record of an account says about the forced refreshes `past` of a run so
far: once one of them sent, its last attempt is the decision reading of one of them no earlier
than that one's; once one of them saved the failure of its message, its last failure is the
outcome reading of one of them no earlier than that one's. -/
structure ForcedTracks (r : Runner) (email : String) (rec : ForcedRefreshRecord)
    (past : List ForcedStep) : Prop where
  attempt : ∀ x ∈ past, x.sent r email = true →
    ∃ y ∈ past, rec.lastAttempt = some y.now ∧ x.now.nanos ≤ y.now.nanos
  failure : ∀ x ∈ past, x.sent r email = true → x.failureSaved r email = true →
    ∃ y ∈ past, rec.lastFailure = some y.done ∧ x.done.nanos ≤ y.done.nanos

namespace ForcedTracks

variable {r : Runner} {email : String} {rec : ForcedRefreshRecord} {past : List ForcedStep}
  {x : ForcedStep}

theorem nil (rec : ForcedRefreshRecord) : ForcedTracks r email rec [] := ⟨by simp, by simp⟩

/-- A step that sends nothing leaves the record's account of the run as it was. -/
theorem quiet (ht : ForcedTracks r email rec past) (hx : x.sent r email = false) :
    ForcedTracks r email rec (past ++ [x]) := by
  constructor
  · intro y hy hsent
    rcases List.mem_append.1 hy with hy | hy
    · obtain ⟨z, hz, hrec, hle⟩ := ht.attempt y hy hsent
      exact ⟨z, List.mem_append_left _ hz, hrec, hle⟩
    · rw [List.mem_singleton.1 hy, hx] at hsent
      cases hsent
  · intro y hy hsent hfail
    rcases List.mem_append.1 hy with hy | hy
    · obtain ⟨z, hz, hrec, hle⟩ := ht.failure y hy hsent hfail
      exact ⟨z, List.mem_append_left _ hz, hrec, hle⟩
    · rw [List.mem_singleton.1 hy, hx] at hsent
      cases hsent

/-- A step that sent, with readings no earlier than the run's, keeps the account when the record
it leaves has its decision as last attempt, and as last failure the one before or its outcome
reading, its outcome reading when it saved a failure. -/
theorem sent (ht : ForcedTracks r email rec past) {rec' : ForcedRefreshRecord}
    (hmono : ∀ y ∈ past, y.now.nanos ≤ x.now.nanos ∧ y.done.nanos ≤ x.done.nanos)
    (hattempt : rec'.lastAttempt = some x.now)
    (hfailure : rec'.lastFailure = rec.lastFailure ∨ rec'.lastFailure = some x.done)
    (hsaved : x.failureSaved r email = true → rec'.lastFailure = some x.done) :
    ForcedTracks r email rec' (past ++ [x]) := by
  constructor
  · intro y hy _
    refine ⟨x, by simp, hattempt, ?_⟩
    rcases List.mem_append.1 hy with hy | hy
    · exact (hmono y hy).1
    · obtain rfl := List.mem_singleton.1 hy
      exact Int.le_refl _
  · intro y hy hsent hfail
    rcases List.mem_append.1 hy with hy | hy
    · rcases hfailure with hsame | hdone
      · obtain ⟨z, hz, hrec, hle⟩ := ht.failure y hy hsent hfail
        exact ⟨z, List.mem_append_left _ hz, hsame.trans hrec, hle⟩
      · exact ⟨x, by simp, hdone, (hmono y hy).2⟩
    · rw [List.mem_singleton.1 hy] at hfail ⊢
      exact ⟨x, by simp, hsaved hfail, Int.le_refl _⟩

/-- **The record's cooldowns space a message from the earlier ones.** When both cooldowns of the
record have passed at a valid decision reading no earlier than every reading of the run so far,
every earlier message is at least the minimum interval before it, and the outcome of every
earlier saved failure at least the cool-down. -/
theorem spaced (ht : ForcedTracks r email rec past)
    (hvalid : ∀ y ∈ past, y.now.Valid ∧ y.done.Valid) (hn : x.now.Valid)
    (hmono : ∀ y ∈ past, y.now.nanos ≤ x.now.nanos ∧ y.done.nanos ≤ x.now.nanos)
    (hattempt : cooldownBlocks x.now rec.lastAttempt r.forced.minimumInterval = false)
    (hfailure : cooldownBlocks x.now rec.lastFailure r.forced.failureCooldown = false) :
    ∀ y ∈ past, y.sent r email = true →
      y.now.nanos + r.forced.minimumInterval.toInt ≤ x.now.nanos ∧
        (y.failureSaved r email = true →
          y.done.nanos + r.forced.failureCooldown.toInt ≤ x.now.nanos) := by
  intro y hy hsent
  obtain ⟨z, hz, hrec, hle⟩ := ht.attempt y hy hsent
  rw [hrec] at hattempt
  have hgap := cooldown_passed hn (hvalid z hz).1 (hmono z hz).1 hattempt
  refine ⟨by omega, fun hfail => ?_⟩
  obtain ⟨z', hz', hrec', hle'⟩ := ht.failure y hy hsent hfail
  rw [hrec'] at hfailure
  have hgap' := cooldown_passed hn (hvalid z' hz').2 (hmono z' hz').2 hfailure
  omega

end ForcedTracks

namespace ForcedStep

/-- What a step that sent did first: it had a credential, the quota of the state it worked on was
not depleted, and it saved the attempt at its decision reading before its message. -/
def Gated (r : Runner) (email : String) (x : ForcedStep) : Prop :=
  x.hasAuth = true ∧ r.weeklyDepleted (x.state.account? email) = false ∧
    ∃ st rest, x.shown r email = .saved st :: .sent r.model r.prompt :: rest ∧
      ∃ rec, st.forcedRefresh.get? email = some rec ∧ rec.lastAttempt = some x.now

/-- Two messages of a run, `x` before `y`, are throttled: their decisions at least the minimum
interval apart, and the decision of `y` at least the cool-down after the outcome reading of `x`
when the message of `x` failed and its failure was saved. -/
def Throttled (r : Runner) (email : String) (x y : ForcedStep) : Prop :=
  x.sent r email = true → y.sent r email = true →
    x.now.nanos + r.forced.minimumInterval.toInt ≤ y.now.nanos ∧
      (x.failureSaved r email = true → x.done.nanos + r.forced.failureCooldown.toInt ≤ y.now.nanos)

/-- **One forced refresh of a run.** With valid readings, its decision no earlier than every
reading of the run so far and its outcome no earlier than its decision, a step that works on the
stored state sends only gated and throttled against the run so far, and leaves a record that
keeps its account of the run. -/
theorem throttle_step {r : Runner} {email : String} {held : AppState} {past : List ForcedStep}
    {x : ForcedStep} (hx : x.state = held)
    (hload : x.call = .load → x.backend.load = .ok (some held) ∧
      (x.surroundings.identity = .ok email ∨ ∃ t, x.surroundings.identity = .error t))
    (ht : ForcedTracks r email ((held.forcedRefresh.get? email).getD {}) past)
    (hvalid : ∀ y ∈ past, y.now.Valid ∧ y.done.Valid) (hn : x.now.Valid)
    (hmono : ∀ y ∈ past, y.now.nanos ≤ x.now.nanos ∧ y.done.nanos ≤ x.now.nanos)
    (hdone : x.now.nanos ≤ x.done.nanos) :
    (x.sent r email = true → x.Gated r email) ∧ (∀ y ∈ past, y.Throttled r email x) ∧
      ForcedTracks r email (((heldAfter held (x.shown r email)).forcedRefresh.get? email).getD {})
        (past ++ [x]) := by
  rcases @quiet_or_sent r email held x hx hload with hnone | ⟨hsent, hcall⟩
  · -- nothing shown: nothing sent or saved
    have hquiet : x.sent r email = false := by simp [sent, hnone]
    refine ⟨fun h => absurd h (by simp [hquiet]), fun y _ _ h => absurd h (by simp [hquiet]), ?_⟩
    rw [hnone, heldAfter_nil]
    exact ht.quiet hquiet
  · -- it sent: the gate allowed it on the stored record, and the record it leaves notes it
    have hs : (x.backend.added (r.forcedRefreshFor x.surroundings x.now x.backend held email
        x.hasAuth).1).any Observation.isSend = true := by
      rw [← hcall]
      exact hsent
    obtain ⟨hauth, hweekly, hattempt, hfailure, ⟨st₁, rest, hshown, hst₁⟩, hlast, hfail, hsaved⟩ :=
      Runner.forcedRefreshFor_sent hs
    have hmono' : ∀ y ∈ past, y.now.nanos ≤ x.now.nanos ∧ y.done.nanos ≤ x.done.nanos :=
      fun y hy => ⟨(hmono y hy).1, by have := (hmono y hy).2; omega⟩
    refine ⟨fun _ => ⟨hauth, hx ▸ hweekly, st₁, rest, hcall.trans hshown, _, hst₁, rfl⟩,
      fun y hy hy' _ => ht.spaced hvalid hn hmono hattempt hfailure y hy hy', ?_⟩
    rw [hcall]
    exact ht.sent hmono' hlast hfail fun h => hsaved (by rw [← hcall]; exact h)

end ForcedStep

/-- **A run of forced refreshes is throttled**, from any record that keeps its account of the
steps before it: every step that sends is gated, and the messages of the whole run are pairwise
throttled. -/
theorem ForcedRun.throttled {r : Runner} {email : String} (steps : List ForcedStep) :
    ∀ {held : AppState} {past : List ForcedStep}, ForcedRun r email held steps →
      ForcedTracks r email ((held.forcedRefresh.get? email).getD {}) past →
      (∀ x ∈ past ++ steps, x.now.Valid ∧ x.done.Valid) →
      (∀ x ∈ past ++ steps, x.now.nanos ≤ x.done.nanos) →
      (past ++ steps).Pairwise (fun x y => x.now.nanos ≤ y.now.nanos ∧ x.done.nanos ≤ y.now.nanos) →
      past.Pairwise (ForcedStep.Throttled r email) →
      (∀ x ∈ steps, x.sent r email = true → x.Gated r email) ∧
        (past ++ steps).Pairwise (ForcedStep.Throttled r email) := by
  -- induction on the run; the stored record's account of the steps so far carries it
  induction steps with
  | nil =>
      intro held past _ _ _ _ _ hpast
      simpa using hpast
  | cons x rest ih =>
      intro held past hrun ht hvalid hwithin hmono hpast
      obtain ⟨hx, hload, hrest⟩ := hrun
      have hvalid' : ∀ y ∈ past, y.now.Valid ∧ y.done.Valid :=
        fun y hy => hvalid y (List.mem_append_left _ hy)
      have hmono' : ∀ y ∈ past, y.now.nanos ≤ x.now.nanos ∧ y.done.nanos ≤ x.now.nanos :=
        fun y hy => (List.pairwise_append.1 hmono).2.2 y hy x (by simp)
      obtain ⟨hgated, hthrottled, ht'⟩ := ForcedStep.throttle_step hx hload ht hvalid'
        (hvalid x (by simp)).1 hmono' (hwithin x (by simp))
      have hpast' : (past ++ [x]).Pairwise (ForcedStep.Throttled r email) :=
        List.pairwise_append.2 ⟨hpast, List.pairwise_singleton _ _,
          fun y hy z hz => (List.mem_singleton.1 hz) ▸ hthrottled y hy⟩
      have hnext := ih hrest ht' (by simpa using hvalid) (by simpa using hwithin)
        (by simpa using hmono) hpast'
      refine ⟨fun y hy => ?_, by simpa using hnext.2⟩
      rcases List.mem_cons.1 hy with rfl | hy
      · exact hgated
      · exact hnext.1 y hy

/-- **Forced refreshes are throttled over any run.** In a run of forced refreshes for one account
on one store, each working on the state the ones before it last saved, with valid clock readings
that never go back and whatever the sends and saves do: a refresh sends only with a credential,
while the weekly quota of the state it works on is not depleted, and after saving its attempt at
its decision reading; any two messages are decided at least the minimum interval apart; and a
message is decided at least the cool-down after the reading that completed an earlier failed
message whose failure was saved. -/
theorem forced_refreshes_throttled {r : Runner} {email : String} {held : AppState}
    {steps : List ForcedStep} (hrun : ForcedRun r email held steps)
    (hclock : ∀ t ∈ steps.flatMap ForcedStep.readings, t.Valid)
    (hmono : (steps.flatMap ForcedStep.readings).Pairwise fun a b => a.nanos ≤ b.nanos) :
    (∀ x ∈ steps, x.sent r email = true →
      x.hasAuth = true ∧ r.weeklyDepleted (x.state.account? email) = false ∧
        ∃ st rest, x.shown r email = .saved st :: .sent r.model r.prompt :: rest ∧
          ∃ rec, st.forcedRefresh.get? email = some rec ∧ rec.lastAttempt = some x.now) ∧
      steps.Pairwise fun x y => x.sent r email = true → y.sent r email = true →
        x.now.nanos + r.forced.minimumInterval.toInt ≤ y.now.nanos ∧
          (x.failureSaved r email = true →
            x.done.nanos + r.forced.failureCooldown.toInt ≤ y.now.nanos) := by
  obtain ⟨hwithin, hbetween⟩ := ForcedStep.readings_forward hmono
  have hvalid : ∀ x ∈ steps, x.now.Valid ∧ x.done.Valid := fun x hx =>
    ⟨hclock _ (List.mem_flatMap.2 ⟨x, hx, by simp [ForcedStep.readings]⟩),
      hclock _ (List.mem_flatMap.2 ⟨x, hx, by simp [ForcedStep.readings]⟩)⟩
  have h := ForcedRun.throttled steps hrun (ForcedTracks.nil _) (by simpa using hvalid)
    (by simpa using hwithin) (by simpa using hbetween) List.Pairwise.nil
  simp only [List.nil_append] at h
  exact h

/-- A whole forced refresh of `a@x.com`, loading a store that names the account, whose message
fails and is done a minute after its decision; then, two hours later, a call with a credential
on the state it left. Their readings are valid and never go back. -/
theorem load_then_call_throttled :
    let r : Runner := default
    let st : Store := { dir := ["d"] }
    let tree : FileTree := ((({} : FileTree).mkdirAll ["d"] Instant.zero).toOption.getD {}).putBytes
      st.path (Utf8.bytesOf "\x7b\"accounts\":[\x7b\"email\":\"a@x.com\",\"codexNumber\":1\x7d]\x7d")
      Instant.zero |>.toOption.getD {}
    let held : AppState := { accounts := [{ email := "a@x.com", ordinal := 1 }] }
    let s₁ : Surroundings :=
      { now := ⟨63872532000, 0, 0⟩, identity := .ok "a@x.com", sendError := some "down",
        clock := fun
          | .sent => ⟨63872532060, 0, 0⟩
          | _ => ⟨63872532000, 0, 0⟩ }
    let x₁ : ForcedStep := ⟨s₁, { store := st, files := tree }, .load, held⟩
    let x₂ : ForcedStep := ⟨{ now := ⟨63872539200, 0, 0⟩ }, { store := st, files := tree },
      .given true, heldAfter held (x₁.shown r "a@x.com")⟩
    ForcedRun r "a@x.com" held [x₁, x₂] ∧ (∀ t ∈ [x₁, x₂].flatMap ForcedStep.readings, t.Valid) ∧
      ([x₁, x₂].flatMap ForcedStep.readings).Pairwise (fun a b => a.nanos ≤ b.nanos) ∧
      ((∀ x ∈ [x₁, x₂], x.sent r "a@x.com" = true →
        x.hasAuth = true ∧ r.weeklyDepleted (x.state.account? "a@x.com") = false ∧
          ∃ st rest, x.shown r "a@x.com" = .saved st :: .sent r.model r.prompt :: rest ∧
            ∃ rec, st.forcedRefresh.get? "a@x.com" = some rec ∧ rec.lastAttempt = some x.now) ∧
        [x₁, x₂].Pairwise fun x y => x.sent r "a@x.com" = true → y.sent r "a@x.com" = true →
          x.now.nanos + r.forced.minimumInterval.toInt ≤ y.now.nanos ∧
            (x.failureSaved r "a@x.com" = true →
              x.done.nanos + r.forced.failureCooldown.toInt ≤ y.now.nanos)) := by
  intro r st tree held s₁ x₁ x₂
  have hload : x₁.backend.load = .ok (some held) := Backend.load_eq_of_toOption (by decide +kernel)
  -- the second call works on the state the first left, which is not computed here
  have hstate : x₂.state = heldAfter held (x₁.shown r "a@x.com") := by dsimp only [x₂]
  have hrun : ForcedRun r "a@x.com" held [x₁, x₂] :=
    ⟨rfl, fun _ => ⟨hload, .inl rfl⟩, hstate, fun h => ForcedCall.noConfusion h, trivial⟩
  have hclock : ∀ t ∈ [x₁, x₂].flatMap ForcedStep.readings, t.Valid := by decide
  have hmono : ([x₁, x₂].flatMap ForcedStep.readings).Pairwise (fun a b => a.nanos ≤ b.nanos) := by
    decide
  exact ⟨hrun, hclock, hmono, forced_refreshes_throttled hrun hclock hmono⟩

end QuotaWatch
