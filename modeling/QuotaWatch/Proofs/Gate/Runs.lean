import QuotaWatch.Proofs.Refresh.Stages
/-!
**Gated actions run after run on one store.**

A gate either allows, handing over the record to store, or blocks with a reason and keeps the
record it was given (`QuotaWatch.decideGate_cases`). The automated actions that use a gate load
their state from the store, save the allowed record, and only then send their message. Over a
run of such actions the store is what carries one action's record to the next: each action
loads the state that the actions before it last saved.

Main definitions:

* `Backend.added`, `heldAfter` — what an action showed, and the state the store holds after it;
* `StoreRun` — a run of actions on one store, each loading the state last saved;
* `Observation.isSend`, `Surroundings.signedIn`, `sendTimes` — the messages sent for an account
  over a run, at the clock readings of their actions.

Main results:

* `decideGate_cases`, `decideGate_of_allowed`, `decideGate_of_blocked` — a gate allows with the
  record to store or blocks with the record it was given;
* `heldAfter_of_savedStates` — the store holds the last state an action saved;
* `sendTimes_append`, `sendTimes_cons` — the send times of a run, step by step.
-/

namespace QuotaWatch

/-- **A gate allows or keeps the record.** Either no check blocks and the decision carries the
new record, or some check blocks and the decision keeps the record as given. -/
theorem decideGate_cases {R : Type} (checks : List (Option BlockReason)) (record next : R) :
    (decideGate checks record next = ⟨next, none⟩ ∧ ∀ c ∈ checks, c = none) ∨
      ∃ why, decideGate checks record next = ⟨record, some why⟩ := by
  unfold decideGate
  split
  · exact .inr ⟨_, rfl⟩
  · rename_i hnone
    exact .inl ⟨rfl, fun c hc => by simpa using List.findSome?_eq_none_iff.1 hnone c hc⟩

theorem decideGate_of_allowed {R : Type} {checks : List (Option BlockReason)} {record next : R}
    (h : (decideGate checks record next).reason = none) :
    decideGate checks record next = ⟨next, none⟩ ∧ ∀ c ∈ checks, c = none := by
  rcases decideGate_cases checks record next with hok | ⟨why, heq⟩
  · exact hok
  · rw [heq] at h
    cases h

theorem decideGate_of_blocked {R : Type} {checks : List (Option BlockReason)} {record next : R}
    {why : BlockReason} (h : (decideGate checks record next).reason = some why) :
    (decideGate checks record next).record = record := by
  rcases decideGate_cases checks record next with ⟨heq, -⟩ | ⟨why', heq⟩
  · rw [heq] at h
    cases h
  · rw [heq]

/-! ### What an action showed, and what the store holds after it -/

/-- What an action on `b` showed, ending with the backend `b'`: the observations it added. -/
def Backend.added (b b' : Backend) : List Observation := b'.seen.drop b.seen.length

@[simp] theorem Backend.added_self (b : Backend) : b.added b = [] := by simp [added]

theorem Backend.added_eq {b b' : Backend} {new : List Observation} (h : b'.seen = b.seen ++ new) :
    b.added b' = new := by
  simp [added, h]

/-- The state a store holds after some observations: the last state saved among them, or `held`
when none was saved. -/
def heldAfter (held : AppState) (obs : List Observation) : AppState :=
  (savedStates obs).getLast?.getD held

@[simp] theorem heldAfter_nil (held : AppState) : heldAfter held [] = held := rfl

/-- After a save followed by observations that save nothing, the store holds the saved state. -/
theorem heldAfter_saved_cons {held st : AppState} {rest : List Observation}
    (h : savedStates rest = []) : heldAfter held (.saved st :: rest) = st := by
  have hs : savedStates (.saved st :: rest) = [st] := by
    rw [savedStates_cons, savedStates_saved, h, List.append_nil]
  rw [heldAfter, hs]
  rfl

/-- A save followed by a message shows the saved state and what comes after. -/
theorem savedStates_saved_sent (st : AppState) (m msg : String) (rest : List Observation) :
    savedStates (.saved st :: .sent m msg :: rest) = st :: savedStates rest := rfl

/-- The store holds the last state saved. -/
theorem heldAfter_of_savedStates {held st : AppState} {obs : List Observation} {l : List AppState}
    (h : savedStates obs = l ++ [st]) : heldAfter held obs = st := by
  simp [heldAfter, h]

/-- A store loads a state when the optional form of its load says so, which the kernel can
decide. -/
theorem Backend.load_eq_of_toOption {b : Backend} {st : AppState}
    (h : b.load.toOption = some (some st)) : b.load = .ok (some st) := by
  cases hl : b.load <;> simp_all [Except.toOption]

/-- A run of actions `act` on one store, from the stored state `held`: each step is the clock
and outside answers of one action and the backend it starts from, whose store holds the state
the actions before it last saved. -/
def StoreRun (act : Surroundings → Backend → Backend) : AppState → List (Surroundings × Backend) → Prop
  | _, [] => True
  | held, (s, b) :: rest => b.load = .ok (some held) ∧ StoreRun act (heldAfter held (b.added (act s b))) rest

/-! ### Messages sent for an account -/

/-- Whether an observation is a message sent. -/
def Observation.isSend : Observation → Bool
  | .sent _ _ => true
  | _ => false

/-- Whether the surroundings show `email` signed in. -/
def Surroundings.signedIn (s : Surroundings) (email : String) : Bool :=
  match s.identity with
  | .ok e => e == email
  | .error _ => false

/-- The clock readings of the actions of a run that sent a message while `email` was signed in,
in the order of the run. -/
def sendTimes (act : Surroundings → Backend → Backend) (email : String)
    (steps : List (Surroundings × Backend)) : List Instant :=
  steps.filterMap fun x => if x.1.signedIn email && (x.2.added (act x.1 x.2)).any Observation.isSend
    then some x.1.now else none

@[simp] theorem sendTimes_nil (act : Surroundings → Backend → Backend) (email : String) :
    sendTimes act email [] = [] := rfl

theorem sendTimes_append (act : Surroundings → Backend → Backend) (email : String)
    (l l' : List (Surroundings × Backend)) :
    sendTimes act email (l ++ l') = sendTimes act email l ++ sendTimes act email l' :=
  List.filterMap_append

theorem sendTimes_cons (act : Surroundings → Backend → Backend) (email : String) (s : Surroundings)
    (b : Backend) (rest : List (Surroundings × Backend)) :
    sendTimes act email ((s, b) :: rest) =
      (if s.signedIn email && (b.added (act s b)).any Observation.isSend then [s.now] else []) ++
        sendTimes act email rest := by
  by_cases h : (s.signedIn email && (b.added (act s b)).any Observation.isSend) = true
  · simp only [sendTimes, List.filterMap_cons, h, if_true, List.singleton_append]
  · simp only [sendTimes, List.filterMap_cons, h, Bool.false_eq_true, if_false, List.nil_append]

end QuotaWatch
