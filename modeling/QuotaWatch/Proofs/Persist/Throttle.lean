import QuotaWatch.Proofs.Persist.Pruning
import QuotaWatch.Proofs.Time.Stamp
/-!
**Backups over a run of saves: the most recent are kept, and they are spaced out.**

Backup names of four-digit years sort as their instants, so the prune keeps the latest. The
newest backup's age is read from its name, cut to the millisecond, so two backups can be up to a
millisecond closer than the interval.

Main definitions:

* `Store.nonShrinking` — a save with at least as many accounts as the file it replaces.

Main results:

* `Store.backupName_lt_iff` — backup names sort as the instants they name, to the millisecond;
* `Store.latestBackup_eq` — the newest backup's time is the instant its name shows;
* `Store.cooldown_clear_of_backsUp` — a non-shrinking save that backs up is out of the cool-down;
* `Store.backups_recent_and_spaced` — **over a run of saves the most recent backups are kept,
  and they are spaced by the interval less a millisecond**;
* `Store.millisecond_stamp_shortens_backup_interval` — two backups closer than the interval.
-/

namespace QuotaWatch

open FileTree

namespace Store

variable {s : Store} {t : FileTree} {c : SaveCall}

/-! ### Backup names and the instants they name -/

theorem backupStamp_numeric : Instant.IsNumericStamp backupStamp := rfl

/-- **Backup names sort as the instants they name**, to the millisecond. -/
theorem backupName_lt_iff {u v : Instant} (hu : u.Stampable) (hv : v.Stampable) :
    backupName u < backupName v ↔ u.truncMillis.nanos < v.truncMillis.nanos := by
  have hlen : (u.utc.stamp backupStamp).toList.length = (v.utc.stamp backupStamp).toList.length := by
    rw [String.length_toList, String.length_toList]
    exact Instant.stamp_length backupStamp_numeric hu hv
  rw [← Instant.stamp_lt_iff backupStamp_numeric hu hv]
  simp only [backupName, String.lt_iff, String.toList_append, List.append_assoc]
  rw [Instant.append_lt_append_iff rfl, Instant.append_lt_append_iff hlen]
  simp

/-- A clock that does not go back writes backup names that do not decrease. -/
theorem backupName_le_of_le {u v : Instant} (hu : u.Stampable) (hv : v.Stampable) (h : u.nanos ≤ v.nanos) :
    backupName u ≤ backupName v :=
  not_lt.1 fun hlt => absurd (Instant.truncMillis_nanos_mono h) (not_le.2 ((backupName_lt_iff hv hu).1 hlt))

/-- The stamp inside a backup's name, between `state-` and `.json`. -/
theorem backupName_inner (u : Instant) :
    String.ofList (((backupName u).toList.drop 6).take (((backupName u).toList.drop 6).length - 5)) =
      u.utc.stamp backupStamp := by
  have h6 : "state-".toList.length = 6 := rfl
  have h5 : ".json".toList.length = 5 := rfl
  simp only [backupName, String.toList_append, List.append_assoc, List.drop_left' h6, List.length_append, h5,
    Nat.add_sub_cancel, List.take_left', String.ofList_toList]

/-- **The newest backup's time is the instant its name shows**, to the millisecond. -/
theorem latestBackup_eq {names : List String} (hnames : s.backupNames t = .ok names) {u : Instant}
    (hlast : names.getLast? = some (backupName u)) (hu : u.Stampable) :
    s.latestBackup t = some u.truncMillis := by
  have hne : names ≠ [] := fun h => by simp [h] at hlast
  obtain ⟨a, as, rfl⟩ := List.exists_cons_of_ne_nil hne
  have hnewest : (a :: as).getLastD "" = backupName u := by
    rw [List.getLastD_eq_getLast?, hlast]
    rfl
  simp only [latestBackup, hnames, hnewest, backupName_inner, Instant.parseStamp?_stamp backupStamp_numeric hu]

/-! ### The interval -/

/-- Whether a save keeps at least as many accounts as the state file it replaces. A file that does
not read counts as shrunk: its backup is never held back. -/
def nonShrinking (s : Store) (t : FileTree) (c : SaveCall) : Bool :=
  match readStateAt t s.path with
  | .ok (some prev) => prev.accounts.length ≤ c.state.accounts.length
  | _ => false

/-- **A non-shrinking save that backs up is out of the interval's cooldown**, counted from the
newest backup's time. -/
theorem cooldown_clear_of_backsUp (hb : s.backsUp t c = true) (hg : s.nonShrinking t c = true) :
    cooldownBlocks c.now (s.latestBackup t) s.options.backupInterval = false := by
  simp only [backsUp, backupDue, Bool.and_eq_true, Bool.not_eq_true'] at hb
  have hthr := hb.2.2
  unfold nonShrinking at hg
  unfold backupThrottled at hthr
  split at hg
  · rename_i prev hprev
    simp only [hprev, decide_eq_true_eq] at hg hthr
    simp only [not_lt.2 hg, decide_false, Bool.not_false, Bool.true_and] at hthr
    cases hl : s.latestBackup t <;> simp_all [cooldownBlocks]
  · cases hg

/-! ### Runs of saves -/

section Run

variable {cs : List SaveCall} {names₀ : List String}

/-- With a clock that does not go back and initial backups named no later than its readings, the
backup names a run has seen, in the order written, never decrease. -/
theorem seen_sorted (hnames₀ : names₀.Pairwise (· < ·))
    (hclock : cs.Pairwise fun c c' => c.now.nanos ≤ c'.now.nanos) (hstamp : ∀ c ∈ cs, c.now.Stampable)
    (hinit : ∀ n ∈ names₀, ∀ c ∈ cs, n ≤ backupName c.now) :
    (names₀ ++ s.backupsWritten t cs).Pairwise (· ≤ ·) := by
  have hall : (cs.map fun c => backupName c.now).Pairwise (· ≤ ·) :=
    List.pairwise_map.2 (hclock.imp_of_mem fun ha hb h => backupName_le_of_le (hstamp _ ha) (hstamp _ hb) h)
  refine List.pairwise_append.2 ⟨hnames₀.imp le_of_lt, hall.sublist (backupsWritten_sublist t cs), ?_⟩
  intro n hn w hw
  obtain ⟨c, hc, rfl⟩ := List.mem_map.1 ((backupsWritten_sublist t cs).subset hw)
  exact hinit n hn c hc

/-- The newest backup name after a run that wrote a backup under `N`: the name of a save of the
run, no smaller than `N`. -/
theorem newest_of_written (ht : t.WellFormed) (hfile : s.file ≠ "backups")
    (hnames₀ : s.backupNames t = .ok names₀)
    (hfew : 0 < s.options.maxBackups → (names₀.length : Int) ≤ s.options.maxBackups)
    (hok : s.backupsSucceed t cs = true) (hinit : ∀ n ∈ names₀, ∀ c ∈ cs, n ≤ backupName c.now)
    {c : SaveCall} (hc : c ∈ cs) (hN : backupName c.now ∈ s.backupsWritten t cs) :
    ∃ names d, s.backupNames (s.afterSaves t cs) = .ok names ∧ d ∈ cs ∧
      names.getLast? = some (backupName d.now) ∧ backupName c.now ≤ backupName d.now := by
  have hrun := NewestKept.run hfile cs (NewestKept.start ht hnames₀ hfew) hok
  obtain ⟨names, hnames, hkeep⟩ := hrun.listing
  obtain ⟨m, hlast, hle, hm⟩ :=
    hkeep.getLast? (backupNames_spec hrun.wellFormed hnames).1 (List.mem_append_right _ hN)
  rcases List.mem_append.1 hm with h0 | hw
  · -- an initial name at or above a name of the run is that name
    obtain rfl : m = backupName c.now := le_antisymm (hinit m h0 c hc) hle
    exact ⟨names, c, hnames, hc, hlast, le_refl _⟩
  · obtain ⟨d, hd, rfl⟩ := List.mem_map.1 ((backupsWritten_sublist t cs).subset hw)
    exact ⟨names, d, hnames, hd, hlast, hle⟩

/-- **Backups over a run of saves.** Start from a well-formed tree whose backup directory lists
at most `maxBackups` backups, named no later than any clock reading of the run, and make saves
whose backups succeed, with a clock that never goes back and reads years of four digits. Then
(a) the backup directory holds the most recent backups: only backups written, no more than the
limit, and every one gone written before every one kept; and (b) a non-shrinking save that backs
up does so at least the backup interval after the clock reading of every earlier backup, cut to
the millisecond. -/
theorem backups_recent_and_spaced (s : Store) (t : FileTree) (cs : List SaveCall) (names₀ : List String)
    (ht : t.WellFormed) (hfile : s.file ≠ "backups") (hnames₀ : s.backupNames t = .ok names₀)
    (hfew : 0 < s.options.maxBackups → (names₀.length : Int) ≤ s.options.maxBackups)
    (hok : s.backupsSucceed t cs = true) (hclock : cs.Pairwise fun c c' => c.now.nanos ≤ c'.now.nanos)
    (hstamp : ∀ c ∈ cs, c.now.Stampable) (hinit : ∀ n ∈ names₀, ∀ c ∈ cs, n ≤ backupName c.now) :
    (∃ names, s.backupNames (s.afterSaves t cs) = .ok names ∧
      s.MostRecent (names₀ ++ s.backupsWritten t cs) names) ∧
    ∀ pre c mid c' post, cs = pre ++ c :: mid ++ c' :: post →
      s.backsUp (s.afterSaves t pre) c = true →
      s.backsUp (s.afterSaves t (pre ++ c :: mid)) c' = true →
      s.nonShrinking (s.afterSaves t (pre ++ c :: mid)) c' = true →
      c.now.truncMillis.nanos + s.options.backupInterval.toInt ≤ c'.now.nanos := by
  refine ⟨?_, fun pre c mid c' post hcs hb hb' hg' => ?_⟩
  · obtain ⟨names, hnames, hkeep⟩ := (NewestKept.run hfile cs (NewestKept.start ht hnames₀ hfew) hok).listing
    exact ⟨names, hnames,
      hkeep.mostRecent (seen_sorted (backupNames_spec ht hnames₀).1 hclock hstamp hinit)⟩
  -- the saves before `c'`, and the facts about them the run gives
  subst hcs
  have hsub : ∀ d ∈ pre ++ c :: mid, d ∈ pre ++ c :: mid ++ c' :: post := fun d hd => List.mem_append_left _ hd
  have hc : c ∈ pre ++ c :: mid := List.mem_append_right _ List.mem_cons_self
  have hc' : c' ∈ pre ++ c :: mid ++ c' :: post := List.mem_append_right _ List.mem_cons_self
  have hok' : s.backupsSucceed t (pre ++ c :: mid) = true := by
    rw [backupsSucceed_append, Bool.and_eq_true] at hok
    exact hok.1
  have hN : backupName c.now ∈ s.backupsWritten t (pre ++ c :: mid) := by
    rw [backupsWritten_append]
    simp [backupsWritten, hb]
  -- the newest backup before `c'` is named for a save `d`, no earlier than `c`
  obtain ⟨names, d, hnames, hd, hlast, hcd⟩ := newest_of_written ht hfile hnames₀ hfew hok'
    (fun n hn e he => hinit n hn e (hsub e he)) hc hN
  have hcool := cooldown_clear_of_backsUp hb' hg'
  rw [latestBackup_eq hnames hlast (hstamp d (hsub d hd))] at hcool
  have hdc' : d.now.nanos ≤ c'.now.nanos := (List.pairwise_append.1 hclock).2.2 d hd c' List.mem_cons_self
  have hpassed := cooldown_passed (hstamp c' hc').valid (hstamp d (hsub d hd)).valid.truncMillis
    ((Instant.truncMillis_nanos_le _).trans hdc') hcool
  have hcd' : c.now.truncMillis.nanos ≤ d.now.truncMillis.nanos :=
    not_lt.1 fun h => not_le.2 ((backupName_lt_iff (hstamp d (hsub d hd)) (hstamp c (hsub c hc))).2 h) hcd
  omega

/-- Saves of one account at 09:00, 10:00 and 17:00 from an empty tree: the first writes the state
file, the other two back it up, seven hours apart. -/
theorem backups_recent_and_spaced_over_a_day :
    let s : Store := { dir := [] }
    let one : AppState := { accounts := [{ email := "a@x.com", ordinal := 1 }] }
    let cs : List SaveCall :=
      [⟨⟨63872528400, 0, 0⟩, one, {}⟩, ⟨⟨63872532000, 0, 0⟩, one, {}⟩, ⟨⟨63872557200, 0, 0⟩, one, {}⟩]
    (∃ names, s.backupNames (s.afterSaves {} cs) = .ok names ∧ s.MostRecent ([] ++ s.backupsWritten {} cs) names) ∧
    ∀ pre c mid c' post, cs = pre ++ c :: mid ++ c' :: post →
      s.backsUp (s.afterSaves {} pre) c = true →
      s.backsUp (s.afterSaves {} (pre ++ c :: mid)) c' = true →
      s.nonShrinking (s.afterSaves {} (pre ++ c :: mid)) c' = true →
      c.now.truncMillis.nanos + s.options.backupInterval.toInt ≤ c'.now.nanos := by
  intro s one cs
  have hstamp : ∀ c ∈ cs, c.now.Stampable := by
    intro c hc
    simp only [cs, List.mem_cons, List.not_mem_nil, or_false] at hc
    rcases hc with rfl | rfl | rfl <;> exact ⟨by decide, by decide, by decide⟩
  exact backups_recent_and_spaced s {} cs [] wellFormed_empty (by decide) rfl (fun _ => by decide)
    (by decide +kernel) (by decide) hstamp (fun _ hn => absurd hn List.not_mem_nil)

/-- **Backups closer than the interval.** One account saved at 09:00 writes the state file; saves
of the same account at 10:00:00.0009 and at 16:00:00 both back it up, though they are 0.9 ms less
than the six-hour interval apart: the second measures from the first backup's name, which says
10:00:00.000. -/
theorem millisecond_stamp_shortens_backup_interval :
    let s : Store := { dir := [] }
    let one : AppState := { accounts := [{ email := "a@x.com", ordinal := 1 }] }
    let first : SaveCall := ⟨⟨63872528400, 0, 0⟩, one, {}⟩
    let c : SaveCall := ⟨⟨63872532000, 900000, 0⟩, one, {}⟩
    let c' : SaveCall := ⟨⟨63872553600, 0, 0⟩, one, {}⟩
    s.backupsSucceed {} [first, c, c'] = true ∧
      s.backsUp (s.afterSaves {} [first]) c = true ∧ s.nonShrinking (s.afterSaves {} [first]) c = true ∧
      s.backsUp (s.afterSaves {} [first, c]) c' = true ∧
      s.nonShrinking (s.afterSaves {} [first, c]) c' = true ∧
      c'.now.nanos - c.now.nanos < s.options.backupInterval.toInt := by
  intro s one first c c'
  exact ⟨by decide +kernel, by decide +kernel, by decide +kernel, by decide +kernel, by decide +kernel,
    by decide⟩

end Run

end Store

end QuotaWatch
