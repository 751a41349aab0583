import QuotaWatch.History.Database
import QuotaWatch.Proofs.Time.Stamp
/-!
**The history in time order.**

Times are stored as zero-padded UTC text to the millisecond, and every query and the pruning
compare that text. For four-digit years it compares as the instants cut to the millisecond and
reads back as the cut instant (`historyTime_lt_iff`, `parseHistoryTime_historyTime`); queries
(`HistoryDb.Tracks.recentSnapshots`) and pruning (`HistoryDb.prune_eq`) follow.

Main definitions:

* `HistoryDb.Write`, `HistoryDb.write` — a write of a run or a snapshot, and its effect;
* `HistoryDb.FirstOfMillis` — the first snapshot of an account in its millisecond, the one a
  later insert of that millisecond does not replace;
* `HistoryDb.Tracks`, `HistoryDb.RunInv` — what the snapshot table holds after a run of writes.

Main results:

* `historyTime_lt_iff`, `parseHistoryTime_historyTime` — the time text orders and reads back as
  the instant cut to the millisecond;
* `HistoryDb.Tracks.write_snapshot`, `HistoryDb.RunInv.foldl` — one write and a whole run keep
  the table's account of the snapshots;
* `HistoryDb.Tracks.recentSnapshots` — a query answers the first snapshots of their milliseconds,
  newest first;
* `HistoryDb.prune_eq` — pruning drops exactly the rows before the cut-off;
* `history_keeps_time_order` — **the history keeps its snapshots in time order**.
-/

namespace QuotaWatch

/-! ### The time text -/

theorem historyStamp_numeric : Instant.IsNumericStamp historyStamp := rfl

/-- **History times compare as the instants they show**, to the millisecond. -/
theorem historyTime_lt_iff {t u : Instant} (ht : t.Stampable) (hu : u.Stampable) :
    historyTime t < historyTime u ↔ t.truncMillis.nanos < u.truncMillis.nanos :=
  Instant.stamp_lt_iff historyStamp_numeric ht hu

/-- **A history time reads back as its instant in UTC, cut to the millisecond.** -/
theorem parseHistoryTime_historyTime {t : Instant} (ht : t.Stampable) :
    parseHistoryTime (historyTime t) = t.truncMillis := by
  have h := Instant.parseStamp?_stamp historyStamp_numeric ht
  have hne : historyTime t ≠ "" := fun he => by
    rw [historyTime] at he
    have hnone : Instant.parseStamp? historyStamp "" = none := rfl
    rw [he, hnone] at h
    cases h
  rw [parseHistoryTime, if_neg hne, historyTime, h]
  rfl

/-- Two history times are one text exactly when they show one millisecond. -/
theorem historyTime_eq_iff {t u : Instant} (ht : t.Stampable) (hu : u.Stampable) :
    historyTime t = historyTime u ↔ t.truncMillis = u.truncMillis := by
  constructor
  · intro h
    rw [← parseHistoryTime_historyTime ht, ← parseHistoryTime_historyTime hu, h]
  · intro h
    have hn : t.truncMillis.nanos = u.truncMillis.nanos := by rw [h]
    refine le_antisymm (not_lt.1 fun hlt => ?_) (not_lt.1 fun hlt => ?_)
    · exact absurd ((historyTime_lt_iff hu ht).1 hlt) (by omega)
    · exact absurd ((historyTime_lt_iff ht hu).1 hlt) (by omega)

/-- A record with the time the database stores for it: its own, or the database's clock `stamp`
when it has none. -/
def SnapshotRecord.stamped (r : SnapshotRecord) (stamp : Instant) : SnapshotRecord :=
  { r with capturedAt := if r.capturedAt.isZero then stamp else r.capturedAt }

namespace HistoryDb

theorem limitRows_map {α β : Type} (f : α → β) (n : Int) (xs : List α) :
    (limitRows n xs).map f = limitRows n (xs.map f) := by
  unfold limitRows
  split <;> simp [List.map_take]

/-! ### Runs of writes -/

/-- A write to the history: a snapshot insert or an automation run, each with the database's clock
at the write, which stamps a row that comes without a time. -/
inductive Write where
  | snapshot (r : SnapshotRecord) (stamp : Instant := Instant.zero)
  | run (u : AutomationRun) (stamp : Instant := Instant.zero)

/-- The instant a write stores. -/
def Write.time : Write → Instant
  | .snapshot r c => (r.stamped c).capturedAt
  | .run u c => if u.timestamp.isZero then c else u.timestamp

/-- The snapshot a write inserts, if it is one, with the time it stores. -/
def Write.snapshot? : Write → Option SnapshotRecord
  | .snapshot r c => some (r.stamped c)
  | .run _ _ => none

/-- The database after a write; a write that fails changes nothing. -/
def write (db : HistoryDb) : Write → HistoryDb
  | .snapshot r c => match db.insertSnapshot r c with
    | .ok (_, db') => db'
    | .error _ => db
  | .run u c => match db.recordRun u c with
    | .ok (_, db') => db'
    | .error _ => db

/-- The snapshots a run of writes inserts, in order. -/
def snapshotsOf (ws : List Write) : List SnapshotRecord := ws.filterMap Write.snapshot?

/-- Whether a snapshot's numbers can be stored: neither is NaN. -/
def storable (r : SnapshotRecord) : Bool :=
  (storedReal r.fiveHourUsed).isSome && (storedReal r.weeklyUsed).isSome

/-- A stamped record keeps its time when stamped again. -/
theorem stamped_capturedAt (r : SnapshotRecord) (c : Instant) :
    (if (r.stamped c).capturedAt.isZero then c else (r.stamped c).capturedAt) = (r.stamped c).capturedAt := by
  by_cases h : r.capturedAt.isZero <;> simp [SnapshotRecord.stamped, h]

/-- Inserting a record is inserting it with the time the database stores for it. -/
theorem insertSnapshot_stamped (db : HistoryDb) (r : SnapshotRecord) (c : Instant) :
    db.insertSnapshot r c = db.insertSnapshot (r.stamped c) c := by
  unfold insertSnapshot
  rw [stamped_capturedAt]
  rfl

theorem storable_stamped (r : SnapshotRecord) (c : Instant) : storable (r.stamped c) = storable r := rfl

theorem write_run_snapshots (db : HistoryDb) (u : AutomationRun) (c : Instant) :
    (db.write (.run u c)).snapshots = db.snapshots := by
  unfold write recordRun
  cases db.runs <;> rfl

theorem write_snapshot_runs (db : HistoryDb) (r : SnapshotRecord) (c : Instant) :
    (db.write (.snapshot r c)).runs = db.runs := by
  dsimp only [write]
  rw [insertSnapshot_stamped]
  unfold insertSnapshot
  rw [stamped_capturedAt]
  cases db.snapshots with
  | none => rfl
  | some tbl =>
    dsimp only
    cases storedReal (r.stamped c).fiveHourUsed <;> cases storedReal (r.stamped c).weeklyUsed <;> try rfl
    dsimp only
    by_cases hany : (tbl.rows.any fun y => y.email == (r.stamped c).email &&
      y.capturedAt == historyTime (r.stamped c).capturedAt) = true
    · rw [if_pos hany]; rfl
    · rw [if_neg hany]; rfl

/-- A run is appended as the next row, with the time it stores as history text. -/
theorem write_run_runs {db : HistoryDb} {q : HistoryTable RunRow} (h : db.runs = some q)
    (u : AutomationRun) (c : Instant) : ∃ x : RunRow, x.timestamp = historyTime (Write.run u c).time ∧
      (db.write (.run u c)).runs = some ⟨q.rows ++ [x], q.lastId + 1⟩ := by
  unfold write recordRun
  rw [h]
  -- the row is fixed by the table first; its time is then read off it
  refine ⟨_, ?_, rfl⟩
  rfl

/-- **One snapshot insert**: the next row number is used up, and the row is appended when its
numbers can be stored and no row of its email has the text of the time it stores. -/
theorem write_snapshot_snapshots {db : HistoryDb} {tbl : HistoryTable SnapshotRow}
    (h : db.snapshots = some tbl) (r₀ : SnapshotRecord) (c : Instant) :
    ∃ x : SnapshotRow, x.id = tbl.lastId + 1 ∧ x.email = (r₀.stamped c).email ∧
      x.capturedAt = historyTime (r₀.stamped c).capturedAt ∧ x.source = (r₀.stamped c).source ∧
      (db.write (.snapshot r₀ c)).snapshots = some ⟨if storable (r₀.stamped c) &&
        !tbl.rows.any (fun y => y.email == (r₀.stamped c).email &&
          y.capturedAt == historyTime (r₀.stamped c).capturedAt)
        then tbl.rows ++ [x] else tbl.rows, tbl.lastId + 1⟩ := by
  dsimp only [write]
  rw [insertSnapshot_stamped]
  generalize hr : r₀.stamped c = r
  have hz : (if r.capturedAt.isZero then c else r.capturedAt) = r.capturedAt := by
    rw [← hr]
    exact stamped_capturedAt r₀ c
  -- the row an ignored insert would have made, to name in the ignoring cases
  let x0 : SnapshotRow := ⟨tbl.lastId + 1, r.email, historyTime r.capturedAt, r.source, 0, 0, none, none,
    false⟩
  unfold insertSnapshot storable
  rw [h, hz]
  dsimp only
  cases storedReal r.fiveHourUsed <;> cases storedReal r.weeklyUsed
  case some.some five weekly =>
    dsimp only
    by_cases hany : (tbl.rows.any fun y => y.email == r.email &&
      y.capturedAt == historyTime r.capturedAt) = true
    · rw [if_pos hany]
      simp only [hany, Option.isSome_some, Bool.true_and, Bool.not_true, Bool.false_eq_true,
        if_false]
      exact ⟨x0, rfl, rfl, rfl, rfl, rfl⟩
    · rw [if_neg hany]
      simp only [Bool.not_eq_true] at hany
      simp only [hany, Option.isSome_some, Bool.true_and, Bool.not_false, if_true]
      refine ⟨_, ?_, ?_, ?_, ?_, rfl⟩ <;> rfl
  all_goals exact ⟨x0, rfl, rfl, rfl, rfl, rfl⟩

/-! ### The first snapshot of each millisecond -/

/-- Record `r`, at position `i` of a run's snapshots `rs`, is the first storable one of its email
and millisecond. -/
def FirstOfMillis (rs : List SnapshotRecord) (i : Nat) (r : SnapshotRecord) : Prop :=
  rs[i]? = some r ∧ storable r = true ∧ ∀ j < i, ∀ r', rs[j]? = some r' → storable r' = true →
    r'.email = r.email → r'.capturedAt.truncMillis ≠ r.capturedAt.truncMillis

variable {rs : List SnapshotRecord} {tbl : HistoryTable SnapshotRow}

theorem FirstOfMillis.lt_length {i : Nat} {r : SnapshotRecord} (h : FirstOfMillis rs i r) :
    i < rs.length :=
  (List.getElem?_eq_some_iff.1 h.1).1

/-- Appending a record keeps which earlier records are first of their millisecond. -/
theorem firstOfMillis_append {r r' : SnapshotRecord} {i : Nat} (hi : i < rs.length) :
    FirstOfMillis (rs ++ [r]) i r' ↔ FirstOfMillis rs i r' := by
  unfold FirstOfMillis
  rw [List.getElem?_append_left hi]
  constructor
  · rintro ⟨h1, h2, h3⟩
    exact ⟨h1, h2, fun j hj r'' hr'' => h3 j hj r'' (by rwa [List.getElem?_append_left (by omega)])⟩
  · rintro ⟨h1, h2, h3⟩
    exact ⟨h1, h2, fun j hj r'' hr'' => h3 j hj r'' (by rwa [List.getElem?_append_left (by omega)] at hr'')⟩

/-- An appended record is first of its millisecond when it is storable and no earlier storable
record shares its email and millisecond. -/
theorem firstOfMillis_last {r : SnapshotRecord} :
    FirstOfMillis (rs ++ [r]) rs.length r ↔ storable r = true ∧ ¬∃ (j : Nat) (r' : SnapshotRecord), rs[j]? = some r' ∧
      storable r' = true ∧ r'.email = r.email ∧ r'.capturedAt.truncMillis = r.capturedAt.truncMillis := by
  unfold FirstOfMillis
  rw [List.getElem?_concat_length]
  constructor
  · rintro ⟨-, hs, h3⟩
    refine ⟨hs, fun ⟨j, r', hj, hs', he, htm⟩ => ?_⟩
    have hlt := (List.getElem?_eq_some_iff.1 hj).1
    exact h3 j hlt r' (by rwa [List.getElem?_append_left hlt]) hs' he htm
  · rintro ⟨hs, hno⟩
    refine ⟨rfl, hs, fun j hj r' hr' hs' he htm => hno ⟨j, r', ?_, hs', he, htm⟩⟩
    rwa [List.getElem?_append_left hj] at hr'

/-- A storable record has a first storable record of its email and millisecond, at or before it. -/
theorem exists_firstOfMillis {j : Nat} {r : SnapshotRecord} (hj : rs[j]? = some r)
    (hs : storable r = true) : ∃ i r', FirstOfMillis rs i r' ∧ r'.email = r.email ∧
      r'.capturedAt.truncMillis = r.capturedAt.truncMillis := by
  induction j using Nat.strong_induction_on generalizing r with
  | _ j ih =>
    by_cases hfirst : ∀ k < j, ∀ r', rs[k]? = some r' → storable r' = true → r'.email = r.email →
        r'.capturedAt.truncMillis ≠ r.capturedAt.truncMillis
    · exact ⟨j, r, ⟨hj, hs, hfirst⟩, rfl, rfl⟩
    · push Not at hfirst
      obtain ⟨k, hk, r', hr', hs', he, htm⟩ := hfirst
      obtain ⟨i, r'', hf, he', htm'⟩ := ih k hk hr' hs'
      exact ⟨i, r'', hf, he'.trans he, htm'.trans htm⟩

/-- Only one record is first of an email and millisecond. -/
theorem FirstOfMillis.unique {i j : Nat} {r r' : SnapshotRecord} (h : FirstOfMillis rs i r)
    (h' : FirstOfMillis rs j r') (he : r.email = r'.email)
    (htm : r.capturedAt.truncMillis = r'.capturedAt.truncMillis) : i = j := by
  rcases lt_trichotomy i j with hij | rfl | hij
  · exact absurd htm (h'.2.2 i hij r h.1 h.2.1 he)
  · rfl
  · exact absurd htm.symm (h.2.2 j hij r' h'.1 h'.2.1 he.symm)

/-! ### The snapshot table of a run -/

/-- A snapshot table that holds, for the snapshots `rs` of a run, the first storable record of
each email and millisecond, as row `i + 1` for the record at position `i`, in the run's order. -/
structure Tracks (rs : List SnapshotRecord) (tbl : HistoryTable SnapshotRow) : Prop where
  lastId : tbl.lastId = rs.length
  ids : tbl.rows.Pairwise fun x y => x.id < y.id
  rowOf : ∀ x ∈ tbl.rows, ∃ i r, FirstOfMillis rs i r ∧ x.id = i + 1 ∧ x.email = r.email ∧
    x.capturedAt = historyTime r.capturedAt ∧ x.source = r.source
  ofFirst : ∀ i r, FirstOfMillis rs i r → ∃ x ∈ tbl.rows, x.id = i + 1

theorem tracks_nil : Tracks [] ⟨[], 0⟩ :=
  ⟨rfl, List.Pairwise.nil, by simp, fun _ _ h => absurd h.1 (by simp)⟩

section Stamped

variable (ht : Tracks rs tbl) (hrs : ∀ r ∈ rs, r.capturedAt.Stampable)
include ht hrs

/-- Two rows of one email and one time text are one row. -/
theorem Tracks.id_eq {x y : SnapshotRow} (hx : x ∈ tbl.rows) (hy : y ∈ tbl.rows)
    (he : x.email = y.email) (hc : x.capturedAt = y.capturedAt) : x.id = y.id := by
  obtain ⟨i, r, hf, hid, hxe, hxc, -⟩ := ht.rowOf x hx
  obtain ⟨j, r', hf', hid', hye, hyc, -⟩ := ht.rowOf y hy
  have hc' : historyTime r.capturedAt = historyTime r'.capturedAt := by rw [← hxc, ← hyc, hc]
  have he' : r.email = r'.email := by rw [← hxe, ← hye, he]
  have htm := (historyTime_eq_iff (hrs r (List.mem_of_getElem? hf.1))
    (hrs r' (List.mem_of_getElem? hf'.1))).1 hc'
  rw [hid, hid', hf.unique hf' he' htm]

/-- **The insert's check**: a row shares a record's email and time text exactly when an earlier
storable record shares its email and millisecond. -/
theorem Tracks.any_iff {r : SnapshotRecord} (hr : r.capturedAt.Stampable) :
    tbl.rows.any (fun y => y.email == r.email && y.capturedAt == historyTime r.capturedAt) = true ↔
      ∃ (j : Nat) (r' : SnapshotRecord), rs[j]? = some r' ∧ storable r' = true ∧ r'.email = r.email ∧
        r'.capturedAt.truncMillis = r.capturedAt.truncMillis := by
  rw [List.any_eq_true]
  constructor
  · rintro ⟨y, hy, hyr⟩
    simp only [Bool.and_eq_true, beq_iff_eq] at hyr
    obtain ⟨i, r', hf, -, he, hc, -⟩ := ht.rowOf y hy
    have he' : r'.email = r.email := by rw [← he, hyr.1]
    have hc' : historyTime r'.capturedAt = historyTime r.capturedAt := by rw [← hc, hyr.2]
    exact ⟨i, r', hf.1, hf.2.1, he',
      (historyTime_eq_iff (hrs r' (List.mem_of_getElem? hf.1)) hr).1 hc'⟩
  · rintro ⟨j, r', hj, hs, he, htm⟩
    -- the row of the first record of that email and millisecond
    obtain ⟨i, r'', hf, he', htm'⟩ := exists_firstOfMillis hj hs
    obtain ⟨y, hy, hid⟩ := ht.ofFirst i r'' hf
    obtain ⟨k, r3, hf3, hid3, he3, hc3, -⟩ := ht.rowOf y hy
    obtain rfl : k = i := by omega
    obtain rfl : r3 = r'' := Option.some.inj (hf3.1.symm.trans hf.1)
    refine ⟨y, hy, ?_⟩
    simp only [Bool.and_eq_true, beq_iff_eq]
    exact ⟨he3.trans (he'.trans he), hc3.trans ((historyTime_eq_iff
      (hrs _ (List.mem_of_getElem? hf3.1)) hr).2 (htm'.trans htm))⟩

/-- **A snapshot insert keeps the table tracking the run**, the record appended to it. -/
theorem Tracks.write_snapshot {db : HistoryDb} (h : db.snapshots = some tbl) {r₀ : SnapshotRecord}
    {c : Instant} (hr : (r₀.stamped c).capturedAt.Stampable) :
    ∃ tbl', (db.write (.snapshot r₀ c)).snapshots = some tbl' ∧ Tracks (rs ++ [r₀.stamped c]) tbl' := by
  obtain ⟨x, hid, he, hc, hs, hw⟩ := write_snapshot_snapshots h r₀ c
  refine ⟨_, hw, ?_⟩
  generalize r₀.stamped c = r at hr he hc hs hw ⊢
  -- the row is appended exactly when the record is first of its email and millisecond
  have hcond : (storable r && !tbl.rows.any (fun y => y.email == r.email &&
      y.capturedAt == historyTime r.capturedAt)) = true ↔ FirstOfMillis (rs ++ [r]) rs.length r := by
    rw [firstOfMillis_last, Bool.and_eq_true, Bool.not_eq_true', ← Bool.not_eq_true,
      ht.any_iff hrs hr]
  have hold : ∀ i r', FirstOfMillis rs i r' → FirstOfMillis (rs ++ [r]) i r' :=
    fun _ _ hf => (firstOfMillis_append hf.lt_length).2 hf
  have hx : x.id = rs.length + 1 := by rw [hid, ht.lastId]
  refine ⟨by simp [ht.lastId], ?_, ?_, ?_⟩
  · split
    · refine List.pairwise_append.2 ⟨ht.ids, List.pairwise_singleton _ _, fun a ha b hb => ?_⟩
      obtain rfl := List.mem_singleton.1 hb
      obtain ⟨i, r', hf, hida, -⟩ := ht.rowOf a ha
      have := hf.lt_length
      omega
    · exact ht.ids
  · intro y hy
    split at hy
    case isTrue hfirst =>
      rcases List.mem_append.1 hy with hy | hy
      · obtain ⟨i, r', hf, rest⟩ := ht.rowOf y hy
        exact ⟨i, r', hold i r' hf, rest⟩
      · obtain rfl := List.mem_singleton.1 hy
        exact ⟨rs.length, r, hcond.1 hfirst, hx, he, hc, hs⟩
    case isFalse =>
      obtain ⟨i, r', hf, rest⟩ := ht.rowOf y hy
      exact ⟨i, r', hold i r' hf, rest⟩
  · intro i r' hf
    rcases Nat.lt_or_ge i rs.length with hi | hi
    · obtain ⟨y, hy, hyid⟩ := ht.ofFirst i r' ((firstOfMillis_append hi).1 hf)
      exact ⟨y, by split <;> simp [hy], hyid⟩
    · have hlt := hf.lt_length
      simp only [List.length_append, List.length_singleton] at hlt
      obtain rfl : i = rs.length := by omega
      obtain rfl : r' = r := Option.some.inj (hf.1.symm.trans List.getElem?_concat_length)
      rw [if_pos (hcond.2 hf)]
      exact ⟨x, List.mem_append_right _ (List.mem_singleton_self _), hx⟩

/-- Every row's time is the text of an instant of a four-digit year. -/
theorem Tracks.stamped {x : SnapshotRow} (hx : x ∈ tbl.rows) :
    ∃ t : Instant, t.Stampable ∧ x.capturedAt = historyTime t := by
  obtain ⟨i, r, hf, -, -, hc, -⟩ := ht.rowOf x hx
  exact ⟨r.capturedAt, hrs r (List.mem_of_getElem? hf.1), hc⟩

/-- **The recent snapshots of a tracked table**: the first storable record of each millisecond
of the email, newest first, as many as the limit asks. -/
theorem Tracks.recentSnapshots {db : HistoryDb} (h : db.snapshots = some tbl) (email : String) :
    ∃ L : List SnapshotRecord, (∀ n, db.recentSnapshots email n = .ok (limitRows n L)) ∧
      L.Pairwise (fun a b => b.capturedAt.nanos < a.capturedAt.nanos) ∧
      (∀ x ∈ L, ∃ i r, FirstOfMillis rs i r ∧ r.email = email ∧ x.id = (i + 1 : Nat) ∧
        x.email = email ∧ x.capturedAt = r.capturedAt.truncMillis ∧ x.source = r.source) ∧
      ∀ i r, FirstOfMillis rs i r → r.email = email → ∃ x ∈ L, x.id = (i + 1 : Nat) := by
  let le := fun a b : SnapshotRow => decide (b.capturedAt ≤ a.capturedAt)
  let mine := tbl.rows.filter (·.email == email)
  have hmem : ∀ {y}, y ∈ mine.mergeSort le ↔ y ∈ tbl.rows ∧ y.email = email := by
    intro y
    rw [List.mem_mergeSort, List.mem_filter, beq_iff_eq]
  refine ⟨(mine.mergeSort le).map SnapshotRow.record, fun n => ?_, ?_, ?_, ?_⟩
  · unfold HistoryDb.recentSnapshots descendingBy
    rw [h]
    exact congrArg Except.ok (limitRows_map SnapshotRow.record n _)
  · -- sorted by time text, and no two rows of the email share one
    have hle := List.pairwise_mergeSort (fun a b c (hab : le a b) (hbc : le b c) =>
      decide_eq_true (le_trans (of_decide_eq_true hbc) (of_decide_eq_true hab)))
      (fun a b => by simp only [le, Bool.or_eq_true, decide_eq_true_eq]; exact le_total _ _) mine
    have hne : mine.Pairwise fun a b => a.capturedAt ≠ b.capturedAt := by
      refine (ht.ids.filter _).imp_of_mem fun ha hb hlt hc => ?_
      rw [List.mem_filter, beq_iff_eq] at ha hb
      have := ht.id_eq hrs ha.1 hb.1 (ha.2.trans hb.2.symm) hc
      omega
    rw [List.pairwise_map]
    refine ((hle.and (hne.perm (List.mergeSort_perm mine le).symm Ne.symm)).imp_of_mem
      fun ha hb hab => ?_)
    obtain ⟨ta, hta, hca⟩ := ht.stamped hrs (hmem.1 ha).1
    obtain ⟨tb, htb, hcb⟩ := ht.stamped hrs (hmem.1 hb).1
    have hlt : historyTime tb < historyTime ta := by
      rw [← hca, ← hcb]
      exact lt_of_le_of_ne (of_decide_eq_true hab.1) (Ne.symm hab.2)
    show (parseHistoryTime _).nanos < (parseHistoryTime _).nanos
    rw [hca, hcb, parseHistoryTime_historyTime hta, parseHistoryTime_historyTime htb]
    exact (historyTime_lt_iff htb hta).1 hlt
  · intro x hx
    obtain ⟨y, hy, rfl⟩ := List.mem_map.1 hx
    obtain ⟨hy, hye⟩ := hmem.1 hy
    obtain ⟨i, r, hf, hid, he, hc, hs⟩ := ht.rowOf y hy
    refine ⟨i, r, hf, he ▸ hye, congrArg Nat.cast hid, hye, ?_, hs⟩
    show parseHistoryTime y.capturedAt = _
    rw [hc, parseHistoryTime_historyTime (hrs r (List.mem_of_getElem? hf.1))]
  · intro i r hf hre
    obtain ⟨y, hy, hid⟩ := ht.ofFirst i r hf
    obtain ⟨k, r', hf', hid', he', -, -⟩ := ht.rowOf y hy
    obtain rfl : k = i := by omega
    obtain rfl : r' = r := Option.some.inj (hf'.1.symm.trans hf.1)
    exact ⟨SnapshotRow.record y, List.mem_map_of_mem (hmem.2 ⟨hy, he'.trans hre⟩), congrArg Nat.cast hid⟩

end Stamped

/-! ### Whole runs -/

/-- What a run of writes keeps of a database: the snapshot table tracks the run's snapshots `rs`,
and every run's time is the text of an instant of a four-digit year. -/
structure RunInv (rs : List SnapshotRecord) (db : HistoryDb) : Prop where
  snapshots : ∃ tbl, db.snapshots = some tbl ∧ Tracks rs tbl
  runs : ∃ q, db.runs = some q ∧ ∀ x ∈ q.rows, ∃ t : Instant, t.Stampable ∧ x.timestamp = historyTime t

theorem runInv_fresh : RunInv [] fresh :=
  ⟨⟨_, rfl, tracks_nil⟩, ⟨_, rfl, fun _ hx => absurd hx List.not_mem_nil⟩⟩

theorem snapshotsOf_cons (w : Write) (ws : List Write) :
    snapshotsOf (w :: ws) = w.snapshot?.toList ++ snapshotsOf ws := by
  cases w <;> rfl

/-- **One write keeps the invariant**, its snapshot appended to the run's. -/
theorem RunInv.write {db : HistoryDb} (hi : RunInv rs db) (hrs : ∀ r ∈ rs, r.capturedAt.Stampable)
    {w : Write} (hw : w.time.Stampable) : RunInv (rs ++ w.snapshot?.toList) (db.write w) := by
  obtain ⟨⟨tbl, hs, ht⟩, ⟨q, hq, hqt⟩⟩ := hi
  cases w with
  | snapshot r c =>
    obtain ⟨tbl', hs', ht'⟩ := ht.write_snapshot hrs hs hw
    exact ⟨⟨tbl', hs', ht'⟩, ⟨q, by rw [write_snapshot_runs, hq], hqt⟩⟩
  | run u c =>
    obtain ⟨x, hx, hq'⟩ := write_run_runs hq u c
    refine ⟨⟨tbl, by rw [write_run_snapshots, hs], by simpa [Write.snapshot?] using ht⟩, ⟨_, hq', ?_⟩⟩
    intro y hy
    rcases List.mem_append.1 hy with hy | hy
    · exact hqt y hy
    · obtain rfl := List.mem_singleton.1 hy
      exact ⟨_, hw, hx⟩

/-- **A run of writes keeps the invariant**, the run's snapshots appended. -/
theorem RunInv.foldl {db : HistoryDb} (hi : RunInv rs db) (hrs : ∀ r ∈ rs, r.capturedAt.Stampable)
    {ws : List Write} (hws : ∀ w ∈ ws, w.time.Stampable) :
    RunInv (rs ++ snapshotsOf ws) (ws.foldl HistoryDb.write db) := by
  induction ws generalizing db rs with
  | nil => simpa [snapshotsOf] using hi
  | cons w ws ih =>
    have hw := hws w List.mem_cons_self
    have hrs' : ∀ r ∈ rs ++ w.snapshot?.toList, r.capturedAt.Stampable := by
      intro r hr
      rcases List.mem_append.1 hr with hr | hr
      · exact hrs r hr
      · cases w with
        | snapshot r' c => obtain rfl : r = r'.stamped c := by simpa [Write.snapshot?] using hr
                           exact hw
        | run u c => simp [Write.snapshot?] at hr
    rw [List.foldl_cons, snapshotsOf_cons, ← List.append_assoc]
    exact ih (hi.write hrs hw) hrs' fun w' hw' => hws w' (List.mem_cons_of_mem _ hw')

theorem stampable_of_mem_snapshotsOf {ws : List Write} (hws : ∀ w ∈ ws, w.time.Stampable)
    {r : SnapshotRecord} (hr : r ∈ snapshotsOf ws) : r.capturedAt.Stampable := by
  obtain ⟨w, hw, hwr⟩ := List.mem_filterMap.1 hr
  cases w with
  | snapshot r' c => obtain rfl : r'.stamped c = r := by simpa [Write.snapshot?] using hwr
                     exact hws _ hw
  | run u c => simp [Write.snapshot?] at hwr

/-! ### Pruning -/

/-- Over rows whose times are texts of instants of four-digit years, keeping the rows not before
the cutoff's text keeps those not before its millisecond, and drops as many as are before it. -/
theorem filter_not_before {α : Type} (time : α → String) {l : List α}
    (hl : ∀ x ∈ l, ∃ t : Instant, t.Stampable ∧ time x = historyTime t) {cutoff : Instant}
    (hc : cutoff.Stampable) :
    l.filter (fun x => !decide (time x < historyTime cutoff)) =
        l.filter (fun x => decide (cutoff.truncMillis.nanos ≤ (parseHistoryTime (time x)).nanos)) ∧
      l.length - (l.filter fun x => !decide (time x < historyTime cutoff)).length =
        (l.filter fun x => decide ((parseHistoryTime (time x)).nanos < cutoff.truncMillis.nanos)).length := by
  have hbefore : ∀ x ∈ l, decide (time x < historyTime cutoff) =
      decide ((parseHistoryTime (time x)).nanos < cutoff.truncMillis.nanos) := by
    intro x hx
    obtain ⟨t, ht, hxt⟩ := hl x hx
    rw [decide_eq_decide, hxt, parseHistoryTime_historyTime ht]
    exact historyTime_lt_iff ht hc
  -- the dropped rows are those the other filter keeps
  have hdrop : l.filter (fun x => !!decide (time x < historyTime cutoff)) =
      l.filter (fun x => decide ((parseHistoryTime (time x)).nanos < cutoff.truncMillis.nanos)) :=
    List.filter_congr fun x hx => by rw [Bool.not_not, hbefore x hx]
  have hlen := List.length_eq_length_filter_add (fun x => !decide (time x < historyTime cutoff)) (l := l)
  rw [hdrop] at hlen
  refine ⟨List.filter_congr fun x hx => ?_, by omega⟩
  rw [hbefore x hx, ← decide_not]
  exact decide_eq_decide.mpr not_lt

/-- **Pruning removes exactly the rows before the cutoff's millisecond, and counts them**, when
every stored time is the text of an instant of a four-digit year, as is the cutoff. -/
theorem prune_eq {db : HistoryDb} {s : HistoryTable SnapshotRow} {q : HistoryTable RunRow}
    (hs : db.snapshots = some s)
    (hst : ∀ x ∈ s.rows, ∃ t : Instant, t.Stampable ∧ x.capturedAt = historyTime t)
    (hq : db.runs = some q)
    (hqt : ∀ x ∈ q.rows, ∃ t : Instant, t.Stampable ∧ x.timestamp = historyTime t)
    {cutoff : Instant} (hc : cutoff.Stampable) :
    db.prune cutoff = ({ db with
      snapshots := some { s with rows := s.rows.filter fun x =>
        cutoff.truncMillis.nanos ≤ (parseHistoryTime x.capturedAt).nanos }
      runs := some { q with rows := q.rows.filter fun x =>
        cutoff.truncMillis.nanos ≤ (parseHistoryTime x.timestamp).nanos } },
      .ok ((s.rows.filter fun x => (parseHistoryTime x.capturedAt).nanos < cutoff.truncMillis.nanos).length +
        (q.rows.filter fun x => (parseHistoryTime x.timestamp).nanos < cutoff.truncMillis.nanos).length)) := by
  obtain ⟨hks, hns⟩ := filter_not_before SnapshotRow.capturedAt hst hc
  obtain ⟨hkq, hnq⟩ := filter_not_before RunRow.timestamp hqt hc
  unfold prune
  rw [hs]
  dsimp only
  rw [hq]
  dsimp only
  rw [hns, hnq, hks, hkq]

/-! ### Runs of writes -/

/-- **The history keeps time order.** For instants of four-digit years the time text compares as
the instants cut to the millisecond and reads back as the cut instant. After any run of writes of
such times from a fresh history, the recent snapshots of an email are newest first with strictly
decreasing milliseconds, one for each first storable insert of its email and millisecond, and
nothing else; and pruning at such a cutoff removes exactly the snapshot and run rows shown before
the cutoff's millisecond, counting them. -/
theorem history_keeps_time_order {t u cutoff : Instant} (ht : t.Stampable) (hu : u.Stampable)
    (hc : cutoff.Stampable) {ws : List Write} (hws : ∀ w ∈ ws, w.time.Stampable) (email : String) :
    (historyTime t < historyTime u ↔ t.truncMillis.nanos < u.truncMillis.nanos) ∧
    parseHistoryTime (historyTime t) = t.truncMillis ∧
    (∃ L : List SnapshotRecord,
      (∀ n, (ws.foldl HistoryDb.write fresh).recentSnapshots email n = .ok (limitRows n L)) ∧
      L.Pairwise (fun a b => b.capturedAt.nanos < a.capturedAt.nanos) ∧
      (∀ x ∈ L, ∃ i r, FirstOfMillis (snapshotsOf ws) i r ∧ r.email = email ∧ x.id = (i + 1 : Nat) ∧
        x.email = email ∧ x.capturedAt = r.capturedAt.truncMillis ∧ x.source = r.source) ∧
      ∀ i r, FirstOfMillis (snapshotsOf ws) i r → r.email = email → ∃ x ∈ L, x.id = (i + 1 : Nat)) ∧
    ∃ s q, (ws.foldl HistoryDb.write fresh).snapshots = some s ∧
      (ws.foldl HistoryDb.write fresh).runs = some q ∧
      (ws.foldl HistoryDb.write fresh).prune cutoff = ({ ws.foldl HistoryDb.write fresh with
        snapshots := some { s with rows := s.rows.filter fun x =>
          cutoff.truncMillis.nanos ≤ (parseHistoryTime x.capturedAt).nanos }
        runs := some { q with rows := q.rows.filter fun x =>
          cutoff.truncMillis.nanos ≤ (parseHistoryTime x.timestamp).nanos } },
        .ok ((s.rows.filter fun x => (parseHistoryTime x.capturedAt).nanos < cutoff.truncMillis.nanos).length +
          (q.rows.filter fun x => (parseHistoryTime x.timestamp).nanos < cutoff.truncMillis.nanos).length)) := by
  have hi := RunInv.foldl runInv_fresh (fun r hr => absurd hr List.not_mem_nil) hws
  rw [List.nil_append] at hi
  obtain ⟨⟨s, hs, hts⟩, ⟨q, hq, hqt⟩⟩ := hi
  have hrs : ∀ r ∈ snapshotsOf ws, r.capturedAt.Stampable := fun r hr =>
    stampable_of_mem_snapshotsOf hws hr
  exact ⟨historyTime_lt_iff ht hu, parseHistoryTime_historyTime ht,
    hts.recentSnapshots hrs hs email,
    s, q, hs, hq, prune_eq hs (fun x hx => hts.stamped hrs hx) hq hqt hc⟩

/-- Two inserts of one email within one millisecond and a run, pruned at the millisecond of the
second insert. -/
theorem history_keeps_time_order_within_millisecond :
    let t : Instant := ⟨1736935200, 500000, 0⟩
    let u : Instant := ⟨1736935200, 900000, 0⟩
    let ws : List Write := [.snapshot { email := "a@x.com", capturedAt := t },
      .snapshot { email := "a@x.com", capturedAt := u }, .run { timestamp := ⟨1736935300, 0, 0⟩ }]
    (historyTime t < historyTime u ↔ t.truncMillis.nanos < u.truncMillis.nanos) ∧
    parseHistoryTime (historyTime t) = t.truncMillis ∧
    (∃ L : List SnapshotRecord,
      (∀ n, (ws.foldl HistoryDb.write fresh).recentSnapshots "a@x.com" n = .ok (limitRows n L)) ∧
      L.Pairwise (fun a b => b.capturedAt.nanos < a.capturedAt.nanos) ∧
      (∀ x ∈ L, ∃ i r, FirstOfMillis (snapshotsOf ws) i r ∧ r.email = "a@x.com" ∧
        x.id = (i + 1 : Nat) ∧ x.email = "a@x.com" ∧ x.capturedAt = r.capturedAt.truncMillis ∧
        x.source = r.source) ∧
      ∀ i r, FirstOfMillis (snapshotsOf ws) i r → r.email = "a@x.com" →
        ∃ x ∈ L, x.id = (i + 1 : Nat)) ∧
    ∃ s q, (ws.foldl HistoryDb.write fresh).snapshots = some s ∧
      (ws.foldl HistoryDb.write fresh).runs = some q ∧
      (ws.foldl HistoryDb.write fresh).prune u = ({ ws.foldl HistoryDb.write fresh with
        snapshots := some { s with rows := s.rows.filter fun x =>
          u.truncMillis.nanos ≤ (parseHistoryTime x.capturedAt).nanos }
        runs := some { q with rows := q.rows.filter fun x =>
          u.truncMillis.nanos ≤ (parseHistoryTime x.timestamp).nanos } },
        .ok ((s.rows.filter fun x => (parseHistoryTime x.capturedAt).nanos < u.truncMillis.nanos).length +
          (q.rows.filter fun x => (parseHistoryTime x.timestamp).nanos < u.truncMillis.nanos).length)) := by
  intro t u ws
  have ht : t.Stampable := ⟨by decide, by decide, by decide⟩
  have hu : u.Stampable := ⟨by decide, by decide, by decide⟩
  have hws : ∀ w ∈ ws, w.time.Stampable := by
    intro w hw
    simp only [ws, List.mem_cons, List.not_mem_nil, or_false] at hw
    rcases hw with rfl | rfl | rfl
    · exact ht
    · exact hu
    · exact ⟨by decide, by decide, by decide⟩
  exact history_keeps_time_order ht hu hu hws "a@x.com"

end HistoryDb

end QuotaWatch
