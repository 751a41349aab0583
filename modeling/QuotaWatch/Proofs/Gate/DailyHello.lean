import QuotaWatch.Proofs.Time.Elapsed
import QuotaWatch.Proofs.Gate.Runs
/-!
**Daily hellos stay within their bounds over any run.**

The allowed hellos of a run of gate checks are at least the minimum interval apart, within the
hours and at most the daily limit (or one) on any local day. The clock reads in one location;
the gate's day is the one that starts at the location's midnight of the reading's date. A
positive interval keeps the allowed hellos in time order, so the count of a day is right as long
as the location's dates never go back: no change of zone moves its clocks back across midnight.
The runner saves the allowed record before sending, so the messages sent for one account keep the
same bounds; two accounts are not held apart.

Main definitions:

* `Instant.localDay` — the calendar day of an instant, in the zone it is shown in;
* `runsOn` — how many of some times fall on a local day;
* `DailyHelloRecord.Tracks` — what a record says about the hellos allowed so far;
* `DailyHelloPolicy.Bounded` — the bounds of the gate on the times of a run's hellos;
* `DailyHelloPolicy.allowedRuns` — the times of the allowed checks of a run of checks.

Main results:

* `Location.Shows.localDay_eq`, `Location.DatesForward.localDay_le` — a reading's local day is
  its location's, and in a location whose dates go forward it never goes back;
* `DailyHelloPolicy.allowed_step` — one allowed check keeps the bounds and the record's account;
* `DailyHelloPolicy.allowedRuns_bounded`, `Runner.dailyHello_run_bounded` — runs of checks and
  runs of daily hellos on one store keep the bounds;
* `daily_hellos_bounded` — **daily hellos keep their bounds over any run**;
* `zero_limit_second_account_and_midnight_fall_back` — a limit below one allows one a day, two
  accounts are not held apart, and a clock moved back across midnight breaks the daily count.
-/

namespace QuotaWatch

/-! ### Local days -/

namespace Instant

/-- The number of the calendar day of an instant, in its zone: days since `0001-01-01`. -/
def localDay (t : Instant) : Int := (t.sec + t.offset) / 86400

/-- The calendar date of an instant is that of its local day. -/
theorem civil_date (t : Instant) :
    (t.civil.year, t.civil.month, t.civil.day) = civilFromDays (t.localDay - 719162) := by
  simp only [civil, localDay]

end Instant

namespace Location

variable {L : Location}

/-- A reading shown in the zone its location has in force is on the local day the location
gives its second. -/
theorem Shows.localDay_eq {t : Instant} (h : L.Shows t) : t.localDay = L.dayAt t.sec := by
  simp only [Shows, offsetAt, unixOf] at h
  simp only [Instant.localDay, dayAt, h]

/-- In a location whose dates go forward, a later reading is on the same local day or a later
one. -/
theorem DatesForward.localDay_le (hL : L.DatesForward) {t u : Instant} (ht : L.Shows t)
    (hu : L.Shows u) (htn : t.nsec < 1000000000) (hun : u.nsec < 1000000000)
    (h : t.nanos ≤ u.nanos) : t.localDay ≤ u.localDay := by
  have hsec : t.sec ≤ u.sec := by
    simp only [Instant.nanos] at h
    omega
  rw [ht.localDay_eq, hu.localDay_eq]
  exact hL _ _ hsec

/-- A location of one offset shows the instants of that offset. -/
@[simp] theorem shows_fixed {off : Int} {t : Instant} : (fixed off).Shows t ↔ t.offset = off :=
  Iff.rfl

/-- The dates of a location of one offset go forward. -/
theorem fixed_datesForward (off : Int) : (fixed off).DatesForward := by
  intro a b hab
  exact Int.ediv_le_ediv (by decide) (by simp only [fixed]; omega)

end Location

/-- Two instants on the same local day have the same start of day, in any location: it is the
location's midnight of their common date. -/
theorem startOfDay_eq_of_localDay_eq (loc : Location) {t u : Instant}
    (h : t.localDay = u.localDay) : startOfDay loc t = startOfDay loc u := by
  have hd := t.civil_date
  rw [h, ← u.civil_date] at hd
  simp only [Prod.mk.injEq] at hd
  obtain ⟨hy, hm, hdd⟩ := hd
  simp only [startOfDay, atHour, hy, hm, hdd]

/-- A record anchored at the start of the day of `t` is of the same day as any instant of the
same local day. -/
theorem sameDay_of_localDay_eq (loc : Location) {t u : Instant} (h : t.localDay = u.localDay) :
    sameDay loc (some (startOfDay loc t)) u = true := by
  simp [sameDay, startOfDay_eq_of_localDay_eq loc h, Instant.same]

/-! ### The bounds, and what a record says about them -/

/-- The number of the times `ts` that fall on the local day `day`. -/
def runsOn (day : Int) (ts : List Instant) : Nat := ts.countP (·.localDay == day)

@[simp] theorem runsOn_nil (day : Int) : runsOn day [] = 0 := rfl

theorem runsOn_append (day : Int) (l l' : List Instant) :
    runsOn day (l ++ l') = runsOn day l + runsOn day l' :=
  List.countP_append ..

theorem runsOn_singleton (day : Int) (t : Instant) :
    runsOn day [t] = if t.localDay = day then 1 else 0 := by
  by_cases h : t.localDay = day <;> simp [runsOn, h]

theorem runsOn_eq_zero {day : Int} {ts : List Instant} (h : ∀ t ∈ ts, t.localDay ≠ day) :
    runsOn day ts = 0 :=
  List.countP_eq_zero.2 fun t ht => by simpa using h t ht

theorem one_le_runsOn {t : Instant} {ts : List Instant} (h : t ∈ ts) : 1 ≤ runsOn t.localDay ts :=
  List.countP_pos_iff.2 ⟨t, h, by simp⟩

namespace DailyHelloRecord

variable (loc : Location)

@[simp] theorem afterRun_lastRun (r : DailyHelloRecord) (now : Instant) :
    (r.afterRun loc now).lastRun = some now := rfl

@[simp] theorem afterRun_dayAnchor (r : DailyHelloRecord) (now : Instant) :
    (r.afterRun loc now).dayAnchor = some (startOfDay loc now) := rfl

theorem afterRun_runCount (r : DailyHelloRecord) (now : Instant) :
    (r.afterRun loc now).runCount = (if sameDay loc r.dayAnchor now then r.runCount else 0) + 1 :=
  rfl

/-- What a record says about the hellos `ts` allowed so far, all valid readings of the location
`loc`: with none, it holds no anchor and no last run; otherwise it holds the last one as its last
run, the start of its day as its anchor, and at least as many runs as fell on that day. -/
structure Tracks (r : DailyHelloRecord) (ts : List Instant) : Prop where
  zone : ∀ t ∈ ts, t.Valid ∧ loc.Shows t
  empty : ts = [] → r.dayAnchor = none ∧ r.lastRun = none
  last : ∀ l t, ts = l ++ [t] →
    r.lastRun = some t ∧ r.dayAnchor = some (startOfDay loc t) ∧
      (runsOn t.localDay ts : Int) ≤ r.runCount

theorem tracks_nil : Tracks loc {} [] :=
  ⟨by simp, fun _ => ⟨rfl, rfl⟩, fun l t h => absurd h.symm (by simp)⟩

end DailyHelloRecord

namespace DailyHelloPolicy

variable (p : DailyHelloPolicy)

/-- The bounds of the daily-hello gate on the times of a run's hellos, in the order of the run:
each is at least the minimum interval after the ones before it, any local day holds at most the
daily limit of them (or one, when the limit is below one), and each falls within the day's
hours. -/
structure Bounded (ts : List Instant) : Prop where
  apart : ts.Pairwise fun a b => a.nanos + p.minimumInterval.toInt ≤ b.nanos
  perDay : ∀ day, (runsOn day ts : Int) ≤ max p.maxRunsPerDay 1
  inHours : ∀ t ∈ ts, p.startHour ≤ t.civil.hour ∧ (t.civil.hour : Int) < p.endHour

theorem bounded_nil : p.Bounded [] := by
  refine ⟨List.Pairwise.nil, fun day => ?_, by simp⟩
  simp only [runsOn_nil]
  omega

variable {p}

/-- **Adding a hello keeps the bounds** when it comes at least the interval after every hello
before it, within the hours, and on a day that holds fewer than the limit. -/
theorem Bounded.snoc {ts : List Instant} {now : Instant} (hb : p.Bounded ts)
    (hbefore : ∀ a ∈ ts, a.nanos + p.minimumInterval.toInt ≤ now.nanos)
    (hh : p.startHour ≤ now.civil.hour ∧ (now.civil.hour : Int) < p.endHour)
    (hday : (runsOn now.localDay ts : Int) + 1 ≤ max p.maxRunsPerDay 1) : p.Bounded (ts ++ [now]) := by
  refine ⟨List.pairwise_append.2 ⟨hb.apart, List.pairwise_singleton _ _, ?_⟩, fun day => ?_, ?_⟩
  · intro a ha b hb'
    rw [List.mem_singleton.1 hb']
    exact hbefore a ha
  · have hold := hb.perDay day
    rw [runsOn_append, runsOn_singleton]
    split
    · rename_i hd
      rw [← hd]
      omega
    · omega
  · intro a ha
    rcases List.mem_append.1 ha with ha | ha
    · exact hb.inHours a ha
    · rw [List.mem_singleton.1 ha]
      exact hh

/-- With a positive interval, no hello of a bounded run comes after its last one. -/
theorem Bounded.le_last (hp : 0 < p.minimumInterval.toInt) {l : List Instant} {t : Instant}
    (hb : p.Bounded (l ++ [t])) : ∀ a ∈ l ++ [t], a.nanos ≤ t.nanos := by
  intro a ha
  rcases List.mem_append.1 ha with ha | ha
  · have := (List.pairwise_append.1 hb.apart).2.2 a ha t (by simp)
    omega
  · rw [List.mem_singleton.1 ha]

variable (p)

/-- **What an allowed check saw.** The new record is the one after a run now, `now` is within
the hours, the count of the anchored day is below the limit if `now` is of that day, and the
cooldown since the last run has passed. -/
theorem decide_allowed {loc : Location} {now : Instant} {r : DailyHelloRecord} {started : Bool}
    (h : (p.decide loc now r started).reason = none) :
    (p.decide loc now r started).record = r.afterRun loc now ∧
      p.startHour ≤ now.civil.hour ∧ (now.civil.hour : Int) < p.endHour ∧
      (sameDay loc r.dayAnchor now = true → r.runCount < p.maxRunsPerDay) ∧
      cooldownBlocks now r.lastRun p.minimumInterval = false := by
  unfold DailyHelloPolicy.decide at h ⊢
  obtain ⟨heq, hall⟩ := decideGate_of_allowed h
  simp only [List.mem_cons, List.not_mem_nil, or_false, forall_eq_or_imp, forall_eq,
    ite_eq_right_iff, reduceCtorEq, imp_false] at hall
  obtain ⟨hhours, hlimit, hcool, -⟩ := hall
  rw [heq]
  refine ⟨rfl, by omega, by omega, fun hs => ?_, by simpa using hcool⟩
  have := not_and.1 hlimit hs
  omega

/-- A blocked check keeps the record. -/
theorem decide_blocked {loc : Location} {now : Instant} {r : DailyHelloRecord} {started : Bool}
    {why : BlockReason} (h : (p.decide loc now r started).reason = some why) :
    (p.decide loc now r started).record = r := by
  unfold DailyHelloPolicy.decide at h ⊢
  exact decideGate_of_blocked h

/-- **One allowed check.** With a positive minimum interval, in a location whose dates go
forward, a check allowed at a valid reading of the location keeps the bounds on the hellos with
it added, and the record it returns keeps track of them. -/
theorem allowed_step {p : DailyHelloPolicy} (hp : 0 < p.minimumInterval.toInt) {loc : Location}
    (hL : loc.DatesForward) {r : DailyHelloRecord} {ts : List Instant} (hb : p.Bounded ts)
    (ht : r.Tracks loc ts) {now : Instant} (hn : now.Valid) (hs : loc.Shows now) {started : Bool}
    (hallow : (p.decide loc now r started).reason = none) :
    p.Bounded (ts ++ [now]) ∧ (p.decide loc now r started).record.Tracks loc (ts ++ [now]) := by
  obtain ⟨hrec, hstart, hend, hlimit, hcool⟩ := p.decide_allowed hallow
  rw [hrec]
  have hzone : ∀ t ∈ ts ++ [now], t.Valid ∧ loc.Shows t := by
    intro t htn
    rcases List.mem_append.1 htn with htn | htn
    · exact ht.zone t htn
    · rw [List.mem_singleton.1 htn]
      exact ⟨hn, hs⟩
  have hlast : ∀ l t, ts ++ [now] = l ++ [t] → t = now := by
    intro l t h
    simpa using (List.append_inj' h rfl).2.symm
  -- the record after `now` notes it; what is left to show is the count of its day
  suffices hcount : p.Bounded (ts ++ [now]) ∧
      (runsOn now.localDay (ts ++ [now]) : Int) ≤ (r.afterRun loc now).runCount by
    refine ⟨hcount.1, hzone, fun h => by simp at h, fun l t h => ?_⟩
    obtain rfl := hlast l t h
    exact ⟨rfl, rfl, hcount.2⟩
  rcases List.eq_nil_or_concat ts with rfl | ⟨l, t, rfl⟩
  · -- the first hello: the record starts its count at one
    obtain ⟨hanchor, -⟩ := ht.empty rfl
    refine ⟨p.bounded_nil.snoc (by simp) ⟨hstart, hend⟩ (by rw [runsOn_nil]; omega), ?_⟩
    simp [DailyHelloRecord.afterRun_runCount, hanchor, sameDay, runsOn_singleton]
  · simp only [List.concat_eq_append] at hb ht ⊢
    obtain ⟨hlastRun, hanchor, hcount⟩ := ht.last l t rfl
    obtain ⟨⟨ht₁, ht₂, ht₃⟩, hts⟩ := ht.zone t (by simp)
    -- the cooldown since `t` has passed, so `now` is at least the interval after every hello
    have hgap : t.nanos + p.minimumInterval.toInt ≤ now.nanos := by
      rw [hlastRun, cooldownBlocks_some hn ⟨ht₁, ht₂, ht₃⟩ (by omega)] at hcool
      simp only [decide_eq_false_iff_not, Int.not_lt] at hcool
      omega
    have hbefore : ∀ a ∈ l ++ [t], a.nanos + p.minimumInterval.toInt ≤ now.nanos := fun a ha => by
      have := hb.le_last hp a ha
      omega
    have hpos : (1 : Int) ≤ runsOn t.localDay (l ++ [t]) := by
      exact_mod_cast one_le_runsOn (by simp)
    by_cases hday : t.localDay = now.localDay
    · -- `now` is on the day of the last hello: the count goes on, below the limit
      have hsame := sameDay_of_localDay_eq loc hday
      have hbelow := hlimit (hanchor ▸ hsame)
      refine ⟨hb.snoc hbefore ⟨hstart, hend⟩ (by rw [← hday]; omega), ?_⟩
      rw [DailyHelloRecord.afterRun_runCount, hanchor, hsame, if_pos rfl, runsOn_append,
        runsOn_singleton, if_pos rfl, ← hday]
      omega
    · -- `now` starts a later day, on which no earlier hello fell: the hellos come in time
      -- order, and the location's dates do not go back
      have hnone : runsOn now.localDay (l ++ [t]) = 0 := by
        refine runsOn_eq_zero fun a ha had => ?_
        obtain ⟨⟨-, -, ha₃⟩, has⟩ := ht.zone a ha
        have h₁ := hL.localDay_le has hts ha₃ ht₃ (hb.le_last hp a ha)
        have h₂ := hL.localDay_le hts hs ht₃ hn.2.2 (by omega)
        omega
      refine ⟨hb.snoc hbefore ⟨hstart, hend⟩ (by rw [hnone]; omega), ?_⟩
      rw [DailyHelloRecord.afterRun_runCount, hanchor, runsOn_append, runsOn_singleton, if_pos rfl, hnone]
      split <;> omega

/-- A check keeps the bounds and the record's account of them: an allowed one with its time
added, a blocked one as they were. -/
theorem decide_step {p : DailyHelloPolicy} (hp : 0 < p.minimumInterval.toInt) {loc : Location}
    (hL : loc.DatesForward) {r : DailyHelloRecord} {ts : List Instant} (hb : p.Bounded ts)
    (ht : r.Tracks loc ts) {now : Instant} (hn : now.Valid) (hs : loc.Shows now) (started : Bool) :
    p.Bounded (ts ++ if (p.decide loc now r started).allowed then [now] else []) ∧
      (p.decide loc now r started).record.Tracks loc
        (ts ++ if (p.decide loc now r started).allowed then [now] else []) := by
  cases hr : (p.decide loc now r started).reason with
  | none =>
      have hallowed : (p.decide loc now r started).allowed = true := by
        simp [GateDecision.allowed, hr]
      rw [if_pos hallowed]
      exact allowed_step hp hL hb ht hn hs hr
  | some why =>
      have hblocked : (p.decide loc now r started).allowed = false := by
        simp [GateDecision.allowed, hr]
      rw [hblocked, if_neg Bool.false_ne_true, List.append_nil, p.decide_blocked hr]
      exact ⟨hb, ht⟩

/-- The times of the allowed checks of a run of daily-hello checks from the record `r`, in the
order of the run, the clock reading in the location `loc`: each check is made at its reading with
its flag for a started 5-hour window, and is given the record the one before returned. -/
def allowedRuns (loc : Location) : DailyHelloRecord → List (Instant × Bool) → List Instant
  | _, [] => []
  | r, (now, started) :: rest =>
    (if (p.decide loc now r started).allowed then [now] else []) ++
      allowedRuns loc (p.decide loc now r started).record rest

/-- **A run of checks keeps the bounds**, for a positive minimum interval and valid readings of a
location whose dates go forward, in whatever order they come. -/
theorem allowedRuns_bounded {p : DailyHelloPolicy} (hp : 0 < p.minimumInterval.toInt)
    {loc : Location} (hL : loc.DatesForward) (calls : List (Instant × Bool))
    (hcalls : ∀ c ∈ calls, c.1.Valid ∧ loc.Shows c.1) :
    ∀ {r : DailyHelloRecord} {ts : List Instant}, p.Bounded ts → r.Tracks loc ts →
      p.Bounded (ts ++ p.allowedRuns loc r calls) := by
  -- induction on the run; the bounds and the record's account of them carry it
  induction calls with
  | nil =>
      intro r ts hb _
      simpa [allowedRuns] using hb
  | cons c rest ih =>
      intro r ts hb ht
      obtain ⟨now, started⟩ := c
      obtain ⟨hn, hs⟩ := hcalls (now, started) (List.mem_cons_self ..)
      obtain ⟨hb', ht'⟩ := decide_step hp hL hb ht hn hs started
      have hrest := ih (fun c hc => hcalls c (List.mem_cons_of_mem _ hc)) hb' ht'
      simpa [allowedRuns, List.append_assoc] using hrest

/- At the default policy (9:00 to 21:00, three a day, five hours apart), checks at 10:00, 12:00,
15:00, 9:30 and 20:30 of one day in UTC allow those at 10:00, 15:00 and 20:30. -/
example : ({} : DailyHelloPolicy).allowedRuns (.fixed 0) {}
    [(⟨63872532000, 0, 0⟩, false), (⟨63872539200, 0, 0⟩, false), (⟨63872550000, 0, 0⟩, false),
      (⟨63872530200, 0, 0⟩, false), (⟨63872569800, 0, 0⟩, false)] =
    [⟨63872532000, 0, 0⟩, ⟨63872550000, 0, 0⟩, ⟨63872569800, 0, 0⟩] := by
  decide +kernel

end DailyHelloPolicy

/-! ### Daily hellos on one store -/

namespace Runner

/-- **A daily hello, by its outcome.** It shows nothing, or the gate allowed it for a configured
account at the reading in the clock's location, the state with the allowed record was saved
first, and the message went out after; nothing else is saved. -/
theorem dailyHelloFor_cases (r : Runner) (s : Surroundings) (b : Backend) (st : AppState)
    (email : String) :
    (r.dailyHelloFor s b st email).1 = b ∨
      ∃ acc d rest, st.account? email = some acc ∧
        d = r.daily.decide s.zone s.now ((st.dailyHello.get? email).getD {})
          (fiveHourStarted (some acc) s.zone s.now r.daily.startHour) ∧
        d.reason = none ∧
        b.added (r.dailyHelloFor s b st email).1 =
          .saved { st with dailyHello := st.dailyHello.set email d.record } :: rest ∧
        savedStates rest = [] ∧ rest.any Observation.isSend := by
  simp only [dailyHelloFor]
  split
  · exact .inl rfl
  · rename_i acc hacc
    split
    · exact .inl rfl
    · generalize hd : r.daily.decide s.zone s.now ((st.dailyHello.get? email).getD {})
        (fiveHourStarted (some acc) s.zone s.now r.daily.startHour) = d
      split
      · exact .inl rfl
      · rename_i hr
        cases hs : b.save (s.clock .recordSave) { st with dailyHello := st.dailyHello.set email d.record } with
        | error e => exact .inl rfl
        | ok b₁ =>
            -- the state is saved, then the message goes out and the run is written
            obtain ⟨hseen, -⟩ := Backend.save_eq_ok hs
            cases he : s.sendError with
            | none =>
                refine .inr ⟨acc, d, [.sent r.model r.prompt, .runStored
                  { timestamp := s.now, email, kind := "dailyHello", outcome := "sent", detail := "" },
                  .greeted acc s.now], hacc, hd.symm, hr, Backend.added_eq ?_, rfl, rfl⟩
                simp [Backend.recordRun_seen, hseen]
            | some t =>
                refine .inr ⟨acc, d, [.sent r.model r.prompt, .runStored
                  { timestamp := s.now, email, kind := "dailyHello", outcome := "failed", detail := t }],
                  hacc, hd.symm, hr, Backend.added_eq ?_, rfl, rfl⟩
                simp [Backend.recordRun_seen, hseen]

/-- A daily hello on a store holding `held` shows nothing, or is the daily hello of the signed-in
email from `held`. -/
theorem runDailyHello_cases (r : Runner) (s : Surroundings) (b : Backend) {held : AppState}
    (hload : b.load = .ok (some held)) :
    (r.runDailyHello s b).1 = b ∨
      ∃ email, s.identity = .ok email ∧ (r.runDailyHello s b).1 = (r.dailyHelloFor s b held email).1 := by
  simp only [runDailyHello, hload]
  split
  · exact .inl rfl
  · exact .inr ⟨_, ‹_›, rfl⟩

/-- **One daily hello on the store.** With the clock in a location whose dates go forward, the
hellos sent for `email` so far, with this one's if it sent for `email`, keep the bounds, and the
record the store then holds for `email` keeps track of them. -/
theorem runDailyHello_step {r : Runner} (hp : 0 < r.daily.minimumInterval.toInt) {email : String}
    {loc : Location} (hL : loc.DatesForward) {held : AppState} {ts : List Instant}
    (hb : r.daily.Bounded ts) (ht : ((held.dailyHello.get? email).getD {}).Tracks loc ts)
    {s : Surroundings} {b : Backend} (hload : b.load = .ok (some held)) (hz : s.zone = loc)
    (hn : s.now.Valid) (hs : loc.Shows s.now) :
    r.daily.Bounded (ts ++ sendTimes (fun s b => (r.runDailyHello s b).1) email [(s, b)]) ∧
      (((heldAfter held (b.added (r.runDailyHello s b).1)).dailyHello.get? email).getD {}).Tracks loc
        (ts ++ sendTimes (fun s b => (r.runDailyHello s b).1) email [(s, b)]) := by
  rw [sendTimes_cons, sendTimes_nil, List.append_nil]
  -- a step that shows nothing sends nothing and leaves the store as it was
  have hquiet : (r.runDailyHello s b).1 = b →
      r.daily.Bounded (ts ++ if s.signedIn email && (b.added (r.runDailyHello s b).1).any
          Observation.isSend then [s.now] else []) ∧
        (((heldAfter held (b.added (r.runDailyHello s b).1)).dailyHello.get? email).getD {}).Tracks loc
          (ts ++ if s.signedIn email && (b.added (r.runDailyHello s b).1).any
            Observation.isSend then [s.now] else []) := by
    intro hsame
    simp only [hsame, Backend.added_self, List.any_nil, Bool.and_false,
      Bool.false_eq_true, if_false, List.append_nil]
    exact ⟨hb, ht⟩
  rcases r.runDailyHello_cases s b hload with hsame | ⟨e, hid, heq⟩
  · exact hquiet hsame
  rcases r.dailyHelloFor_cases s b held e with hsame | ⟨acc, d, rest, -, hd, hr, hadded, hsaved, hsend⟩
  · exact hquiet (heq.trans hsame)
  rw [heq, hadded, heldAfter_saved_cons hsaved]
  by_cases he : e = email
  · -- a hello for `email`: its record is the allowed one, and it was sent
    subst he
    have hsigned : s.signedIn e = true := by simp [Surroundings.signedIn, hid]
    simp only [hsigned, List.any_cons, Observation.isSend, hsend, Bool.false_or, Bool.and_self,
      if_true, Table.get?_set_self, Option.getD_some]
    rw [hd, hz] at hr ⊢
    exact DailyHelloPolicy.allowed_step hp hL hb ht hn hs hr
  · -- a hello for another account leaves the record of `email` and its hellos alone
    have hsigned : s.signedIn email = false := by simp [Surroundings.signedIn, hid, he]
    simp only [hsigned, Bool.false_and, Bool.false_eq_true, if_false, List.append_nil,
      Table.get?_set_of_ne _ _ (Ne.symm he)]
    exact ⟨hb, ht⟩

/-- **A run of daily hellos on one store keeps the bounds** on the hellos sent for any one
account, from any hellos and record that keep them, with the clock in one location whose dates
go forward. -/
theorem dailyHello_run_bounded {r : Runner} (hp : 0 < r.daily.minimumInterval.toInt) {email : String}
    {loc : Location} (hL : loc.DatesForward) (steps : List (Surroundings × Backend))
    (hclock : ∀ x ∈ steps, x.1.zone = loc ∧ x.1.now.Valid ∧ loc.Shows x.1.now) :
    ∀ {held : AppState} {ts : List Instant}, StoreRun (fun s b => (r.runDailyHello s b).1) held steps →
      r.daily.Bounded ts → ((held.dailyHello.get? email).getD {}).Tracks loc ts →
      r.daily.Bounded (ts ++ sendTimes (fun s b => (r.runDailyHello s b).1) email steps) := by
  -- induction on the run; the store's record for `email` and the hellos sent carry it
  induction steps with
  | nil =>
      intro held ts _ hb _
      simpa using hb
  | cons x rest ih =>
      intro held ts hrun hb ht
      obtain ⟨s, b⟩ := x
      obtain ⟨hload, hrest⟩ := hrun
      obtain ⟨hz, hn, hs⟩ := hclock (s, b) (List.mem_cons_self ..)
      obtain ⟨hb', ht'⟩ := runDailyHello_step hp hL hb ht hload hz hn hs
      have := ih (fun x hx => hclock x (List.mem_cons_of_mem _ hx)) hrest hb' ht'
      rw [List.append_assoc, ← sendTimes_append] at this
      simpa using this

end Runner

/-! ### The bounds over runs -/

/-- **Daily hellos keep their bounds over any run.** For a positive minimum interval and clock
readings that are valid instants of one location whose dates never go back, two lists of times
keep the bounds: the allowed checks of any run of daily-hello checks from the empty record, each
given the record the one before returned, whatever the flags and the order of the times; and the
messages sent for an account by any run of daily hellos on one store that starts with no record
for it, each loading the state the ones before it last saved, whatever the sends and saves do. -/
theorem daily_hellos_bounded {p : DailyHelloPolicy} (hp : 0 < p.minimumInterval.toInt)
    {L : Location} (hL : L.DatesForward) :
    (∀ calls : List (Instant × Bool), (∀ c ∈ calls, c.1.Valid ∧ L.Shows c.1) →
      p.Bounded (p.allowedRuns L {} calls)) ∧
    ∀ (r : Runner) (email : String) (st₀ : AppState) (steps : List (Surroundings × Backend)),
      r.daily = p → st₀.dailyHello.get? email = none →
      StoreRun (fun s b => (r.runDailyHello s b).1) st₀ steps →
      (∀ x ∈ steps, x.1.zone = L ∧ x.1.now.Valid ∧ L.Shows x.1.now) →
      p.Bounded (sendTimes (fun s b => (r.runDailyHello s b).1) email steps) := by
  refine ⟨fun calls hcalls => ?_, fun r email st₀ steps hr h₀ hrun hclock => ?_⟩
  · have h := DailyHelloPolicy.allowedRuns_bounded hp hL calls hcalls p.bounded_nil
      (DailyHelloRecord.tracks_nil L)
    simpa using h
  · subst hr
    have ht : ((st₀.dailyHello.get? email).getD {}).Tracks L [] := by
      rw [h₀]
      exact DailyHelloRecord.tracks_nil L
    have h := Runner.dailyHello_run_bounded hp hL steps hclock hrun r.daily.bounded_nil ht
    simpa using h

/-- At the default policy, in UTC, five checks of one day keep the bounds; and on a store whose
state names `a@x.com`, a daily hello at 8:00, outside the hours, and one at 10:00 make a run of
the store. -/
theorem default_daily_hellos_bounded :
    let st : Store := { dir := ["d"] }
    let tree : FileTree := ((({} : FileTree).mkdirAll ["d"] Instant.zero).toOption.getD {}).putBytes
      st.path (Utf8.bytesOf "\x7b\"accounts\":[\x7b\"email\":\"a@x.com\",\"codexNumber\":1\x7d]\x7d")
      Instant.zero |>.toOption.getD {}
    let b₀ : Backend := { store := st, files := tree }
    let held : AppState := { accounts := [{ email := "a@x.com", ordinal := 1 }] }
    let s₀ : Surroundings := { now := ⟨63872524800, 0, 0⟩, identity := .ok "a@x.com" }
    let steps : List (Surroundings × Backend) :=
      [(s₀, b₀), ({ now := ⟨63872532000, 0, 0⟩, identity := .ok "a@x.com" }, b₀)]
    let act := fun s b => ((default : Runner).runDailyHello s b).1
    0 < ({} : DailyHelloPolicy).minimumInterval.toInt ∧ (Location.fixed 0).DatesForward ∧
      ({} : DailyHelloPolicy).Bounded (({} : DailyHelloPolicy).allowedRuns (.fixed 0) {}
        [(⟨63872532000, 0, 0⟩, false), (⟨63872539200, 0, 0⟩, false), (⟨63872550000, 0, 0⟩, false),
          (⟨63872530200, 0, 0⟩, false), (⟨63872569800, 0, 0⟩, false)]) ∧
      StoreRun act held steps ∧
      ({} : DailyHelloPolicy).Bounded (sendTimes act "a@x.com" steps) := by
  intro st tree b₀ held s₀ steps act
  have hp : 0 < ({} : DailyHelloPolicy).minimumInterval.toInt := by decide
  have hL := Location.fixed_datesForward 0
  -- the check outside the hours saves nothing, so the second step loads what the first did
  have hload : b₀.load = .ok (some held) := Backend.load_eq_of_toOption (by decide +kernel)
  have hquiet : (b₀.added (act s₀ b₀)).isEmpty = true := by decide +kernel
  have hrun : StoreRun act held steps :=
    ⟨hload, by rw [List.isEmpty_iff.1 hquiet, heldAfter_nil]; exact ⟨hload, trivial⟩⟩
  have hclock : ∀ x ∈ steps, x.1.zone = .fixed 0 ∧ x.1.now.Valid ∧ (Location.fixed 0).Shows x.1.now := by
    intro x hx
    simp only [steps, List.mem_cons, List.not_mem_nil, or_false] at hx
    rcases hx with rfl | rfl <;> exact ⟨rfl, by decide, by decide⟩
  obtain ⟨hcalls, hstore⟩ := daily_hellos_bounded hp hL
  exact ⟨hp, hL, hcalls _ (by decide), hrun, hstore default "a@x.com" held steps rfl rfl hrun hclock⟩

/-- The daily limit counts as one when it is below one, the bounds are per account, and they
need the location's dates to go forward. With a limit of zero, the first check of a day
(2025-01-15 10:00 UTC) is allowed. On a store with two accounts, a daily hello for the first at
10:00 and one for the second a minute later both send, although the default policy keeps two
hellos five hours apart. And where the clocks go back from 00:01 to 23:01 of the day before (as
in St. John's, 2010-11-07, from UTC-2:30 to UTC-3:30), checks a minute apart at 23:10, 00:00:30
and, after the change, 23:30 are all allowed under a limit of one a day, two of them on the
local day of 2010-11-06. -/
theorem zero_limit_second_account_and_midnight_fall_back :
    let t₁ : Instant := ⟨63872532000, 0, 0⟩
    let t₂ : Instant := ⟨63872532060, 0, 0⟩
    let st : Store := { dir := ["d"] }
    let tree : FileTree := ((({} : FileTree).mkdirAll ["d"] Instant.zero).toOption.getD {}).putBytes
      st.path (Utf8.bytesOf ("\x7b\"accounts\":[\x7b\"email\":\"a@x.com\",\"codexNumber\":1\x7d," ++
        "\x7b\"email\":\"b@x.com\",\"codexNumber\":2\x7d]\x7d")) Instant.zero |>.toOption.getD {}
    let b₀ : Backend := { store := st, files := tree }
    let s₁ : Surroundings := { now := t₁, identity := .ok "a@x.com" }
    let s₂ : Surroundings := { now := t₂, identity := .ok "b@x.com" }
    let act := fun s b => ((default : Runner).runDailyHello s b).1
    let change : Int := 1289097060
    let stJohns : Location := ⟨fun u => if u < change then ⟨-9000, -Int.pow 2 63, change⟩
      else ⟨-12600, change, Int.pow 2 63 - 1⟩⟩
    let p : DailyHelloPolicy :=
      { startHour := 0, endHour := 24, maxRunsPerDay := 1, minimumInterval := Duration.minute }
    let calls : List (Instant × Bool) := [(⟨63424690800, 0, -9000⟩, false),
      (⟨63424693830, 0, -9000⟩, false), (⟨63424695600, 0, -12600⟩, false)]
    ({ maxRunsPerDay := 0 } : DailyHelloPolicy).allowedRuns (.fixed 0) {} [(t₁, false)] = [t₁] ∧
      sendTimes act "a@x.com" [(s₁, b₀), (s₂, act s₁ b₀)] ++
        sendTimes act "b@x.com" [(s₁, b₀), (s₂, act s₁ b₀)] = [t₁, t₂] ∧
      t₂.nanos < t₁.nanos + ({} : DailyHelloPolicy).minimumInterval.toInt ∧
      0 < p.minimumInterval.toInt ∧ (∀ c ∈ calls, c.1.Valid ∧ stJohns.Shows c.1) ∧
      p.allowedRuns stJohns {} calls = calls.map (·.1) ∧
      runsOn (63424681800 / 86400) (calls.map (·.1)) = 2 ∧ max p.maxRunsPerDay 1 = 1 := by
  decide +kernel

end QuotaWatch
