import QuotaWatch.Proofs.Persist.Backups
/-!
**How long the backup of a shrinking save lasts.**

A save with fewer accounts than the file it replaces always makes a backup, named by its clock
reading, and pruning drops the smallest names beyond `maxBackups`; if the clock goes back, the
backup is the smallest name at once and a full directory loses it in the same save.

Main definitions:

* `Store.shrinks` — a save with fewer accounts than the file it replaces;
* `Store.ClearFrom` — before the shrinking save: no backup name at or above its name;
* `Store.KeptBackup` — after it: its backup is kept, with its bytes, while fewer than the limit
  of names above it have been written.

Main results:

* `Store.backsUp_of_shrinks` — a shrinking save always backs up;
* `Store.ClearFrom.run`, `Store.ClearFrom.shrinking_step`, `Store.KeptBackup.run` — the run
  before, the shrinking save itself, and the run after;
* `Store.shrinking_backup_kept` — **the backup of a shrinking save lasts** until the limit of
  later names is written;
* `Store.earlier_clock_loses_shrinking_backup` — a clock that goes back loses it at once.
-/

namespace QuotaWatch

open FileTree

namespace Store

variable {s : Store} {t : FileTree} {c : SaveCall}

/-! ### Shrinking saves -/

/-- Whether a save writes fewer accounts than the state file it replaces. -/
def shrinks (s : Store) (t : FileTree) (c : SaveCall) : Bool :=
  match readStateAt t s.path with
  | .ok (some prev) => c.state.accounts.length < prev.accounts.length
  | _ => false

/-- A shrinking save replaces a file that reads, and its backup is never throttled. -/
theorem shrinks_spec (h : s.shrinks t c = true) :
    ∃ data, t.bytesAt s.path = .ok data ∧ s.backupThrottled t c.now c.state.accounts.length = false := by
  unfold shrinks at h
  split at h
  · rename_i prev hprev
    have hthr : s.backupThrottled t c.now c.state.accounts.length = false := by
      simp [backupThrottled, hprev, h]
    unfold readStateAt at hprev
    split at hprev
    · split at hprev <;> cases hprev
    · rename_i data hdata
      exact ⟨data, hdata, hthr⟩
  · cases h

theorem backsUp_of_shrinks (henc : (encodeStateFile c.state).isOk = true) (h : s.shrinks t c = true) :
    s.backsUp t c = true := by
  obtain ⟨data, hdata, hthr⟩ := shrinks_spec h
  simp only [backsUp, backupDue, henc, hdata, hthr, Bool.true_and, Bool.not_false, Bool.and_true]
  rfl

/-- A save that makes a backup without failing has its state file outside the backup directory:
the directory could not be made where the state file is. -/
theorem file_ne_backups (hok : s.backupOk t c = true) (hb : s.backsUp t c = true) :
    s.file ≠ "backups" := by
  intro hfile
  have henc : (encodeStateFile c.state).isOk = true := by
    simp only [backsUp, Bool.and_eq_true] at hb
    exact hb.1
  have hbok : (s.backup t c.now c.state.accounts.length c.faults.backup).2 = none := by
    simpa [backupOk, henc] using hok
  rcases backup_spec hbok with ⟨hdue, -⟩ | ⟨-, data, t₁, -, hdata, h₁, -⟩
  · simp [backsUp, hdue] at hb
  · obtain ⟨-, id, m, hf, -⟩ := bytesAt_eq_ok_iff.1 hdata
    have hpath : s.path = s.backupDir := by simp [path, backupDir, hfile]
    rw [hpath] at hf
    exact mkdirAll_ne_file hf h₁

/-! ### Before the shrinking save -/

variable {N : String}

/-- The backup directory holds nothing named at or after `N`. -/
structure ClearFrom (s : Store) (N : String) (t : FileTree) : Prop where
  wellFormed : t.WellFormed
  clear : ∀ n, N ≤ n → t.find? (s.backupDir ++ [n]) = none

/-- A save whose backup name comes before `N` leaves nothing named at or after `N`. -/
theorem ClearFrom.step (h : ClearFrom s N t) (hfile : s.file ≠ "backups")
    (hok : s.backupOk t c = true) (hname : backupName c.now < N) :
    ClearFrom s N (s.saveStep t c) := by
  obtain ⟨hwf, -, hsame, hmade, -⟩ := save_backups h.wellFormed hfile hok
  refine ⟨hwf, fun n hn => ?_⟩
  cases hb : s.backsUp t c
  · rw [hsame hb n, h.clear n hn]
  · obtain ⟨-, t₂, names, -, -, -, -, hother, -, -, hafter⟩ := hmade hb
    have hne : n ≠ backupName c.now := by
      rintro rfl
      exact absurd hn (not_le.2 hname)
    rw [hafter n]
    split
    · rfl
    · rw [hother n hne, h.clear n hn]

theorem ClearFrom.run (hfile : s.file ≠ "backups") (cs : List SaveCall) (h : ClearFrom s N t)
    (hok : s.backupsSucceed t cs = true) (hnames : ∀ c ∈ cs, backupName c.now < N) :
    ClearFrom s N (s.afterSaves t cs) := by
  induction cs generalizing t with
  | nil => exact h
  | cons c cs ih =>
    simp only [backupsSucceed, Bool.and_eq_true] at hok
    exact ih (h.step hfile hok.1 (hnames c List.mem_cons_self)) hok.2
      fun c' hc' => hnames c' (List.mem_cons_of_mem _ hc')

/-! ### After the shrinking save -/

variable {data : List UInt8}

/-- The backup named `N` holds `data`, and every backup named after it is one of `W`. -/
structure KeptBackup (s : Store) (N : String) (data : List UInt8) (W : List String) (t : FileTree) :
    Prop where
  wellFormed : t.WellFormed
  bytes : t.bytesAt (s.backupDir ++ [N]) = .ok data
  later : ∀ n, N < n → t.find? (s.backupDir ++ [n]) ≠ none → n ∈ W

/-- **The shrinking save.** Its backup is the last name of the directory, so the prune that
follows it removes other names: it holds the replaced file. -/
theorem ClearFrom.shrinking_step (h : ClearFrom s (backupName c.now) t) (hfile : s.file ≠ "backups")
    (hok : s.backupOk t c = true) (henc : (encodeStateFile c.state).isOk = true)
    (hshrink : s.shrinks t c = true) (hdata : t.bytesAt s.path = .ok data) :
    KeptBackup s (backupName c.now) data [] (s.saveStep t c) := by
  obtain ⟨hwf, -, -, hmade, -⟩ := save_backups h.wellFormed hfile hok
  obtain ⟨data', t₂, names, hdata', hwf₂, -, hbytes, hother, hnames, hk, hafter⟩ :=
    hmade (backsUp_of_shrinks henc hshrink)
  rw [hdata] at hdata'
  cases hdata'
  obtain ⟨hsorted, hmem⟩ := backupNames_spec hwf₂ hnames
  -- no listed name comes after the new backup
  have hsub : ∀ m ∈ names, backupName c.now ≤ m → m ∈ [backupName c.now] := by
    intro m hm hle
    by_cases hmc : m = backupName c.now
    · simp [hmc]
    · obtain ⟨-, e, hf, -⟩ := (hmem m).1 hm
      rw [hother m hmc, h.clear m hle] at hf
      cases hf
  have hkeep := not_mem_prunedNames (s := s) hsorted hsub (by simp only [List.length_nil]; omega)
  have hN : (s.saveStep t c).find? (s.backupDir ++ [backupName c.now]) =
      t₂.find? (s.backupDir ++ [backupName c.now]) := by
    rw [hafter, if_neg hkeep]
  refine ⟨hwf, hwf₂.bytesAt_of_find? hwf hk hbytes hN, fun n hn hf => ?_⟩
  rw [hafter n] at hf
  split at hf
  · exact absurd rfl hf
  · rw [hother n (ne_of_gt hn)] at hf
    exact absurd (h.clear n (le_of_lt hn)) hf

/-- A save whose backup name comes after `N` keeps the backup while the directory has room: the
names after `N` are those written before and possibly its own. -/
theorem KeptBackup.step {W : List String} (h : KeptBackup s N data W t) (hfile : s.file ≠ "backups")
    (hok : s.backupOk t c = true) (hname : N < backupName c.now)
    (hfew : s.options.maxBackups ≤ 0 ∨
      ((W ++ if s.backsUp t c then [backupName c.now] else []).length : Int) < s.options.maxBackups) :
    KeptBackup s N data (W ++ if s.backsUp t c then [backupName c.now] else []) (s.saveStep t c) := by
  obtain ⟨hwf, hk, hsame, hmade, -⟩ := save_backups h.wellFormed hfile hok
  cases hb : s.backsUp t c
  · -- no backup: every name shows what it showed
    simp only [Bool.false_eq_true, if_false, List.append_nil]
    refine ⟨hwf, h.wellFormed.bytesAt_of_find? hwf hk h.bytes (hsame hb N), fun n hn hf => ?_⟩
    rw [hsame hb n] at hf
    exact h.later n hn hf
  · obtain ⟨-, t₂, names, -, hwf₂, -, -, hother, hnames, -, hafter⟩ := hmade hb
    simp only [hb, if_true] at hfew ⊢
    obtain ⟨hsorted, hmem⟩ := backupNames_spec hwf₂ hnames
    -- the listed names from `N` on are `N`, the names written since, and the new one
    have hsub : ∀ m ∈ names, N ≤ m → m ∈ N :: (W ++ [backupName c.now]) := by
      intro m hm hle
      rcases eq_or_lt_of_le hle with rfl | hlt
      · exact List.mem_cons_self
      · by_cases hmc : m = backupName c.now
        · simp [hmc]
        · obtain ⟨-, e, hf, -⟩ := (hmem m).1 hm
          rw [hother m hmc] at hf
          have := h.later m hlt (by rw [hf]; simp)
          simp [this]
    have hkeep := not_mem_prunedNames hsorted hsub hfew
    have hN : (s.saveStep t c).find? (s.backupDir ++ [N]) = t.find? (s.backupDir ++ [N]) := by
      rw [hafter, if_neg hkeep, hother N (ne_of_lt hname)]
    refine ⟨hwf, h.wellFormed.bytesAt_of_find? hwf hk h.bytes hN, fun n hn hf => ?_⟩
    rw [hafter n] at hf
    split at hf
    · exact absurd rfl hf
    · by_cases hnc : n = backupName c.now
      · simp [hnc]
      · rw [hother n hnc] at hf
        simp [h.later n hn hf]

theorem KeptBackup.run (hfile : s.file ≠ "backups") (cs : List SaveCall) {W : List String}
    (h : KeptBackup s N data W t) (hok : s.backupsSucceed t cs = true)
    (hnames : ∀ c ∈ cs, N < backupName c.now)
    (hfew : s.options.maxBackups ≤ 0 ∨ ((W ++ s.backupsWritten t cs).length : Int) < s.options.maxBackups) :
    KeptBackup s N data (W ++ s.backupsWritten t cs) (s.afterSaves t cs) := by
  induction cs generalizing t W with
  | nil => simpa [backupsWritten] using h
  | cons c cs ih =>
    simp only [backupsSucceed, Bool.and_eq_true] at hok
    simp only [backupsWritten, ← List.append_assoc] at hfew ⊢
    -- the room left after this save bounds the room needed for it
    have hfew₁ : s.options.maxBackups ≤ 0 ∨
        ((W ++ if s.backsUp t c then [backupName c.now] else []).length : Int) < s.options.maxBackups := by
      rcases hfew with hle | hlt
      · exact .inl hle
      · right
        simp only [List.length_append] at hlt ⊢
        omega
    exact ih (h.step hfile hok.1 (hnames c List.mem_cons_self) hfew₁) hok.2
      (fun c' hc' => hnames c' (List.mem_cons_of_mem _ hc')) hfew

/-! ### Whole runs -/

/-- **The backup of a shrinking save lasts.** Take a run of saves whose backups do not fail,
whose backup names increase, and which starts with no backup named at or after the shrinking
save `c`. Then `c` backs up the state file it replaces, and that backup holds the replaced file
after every later save, as long as fewer than `maxBackups` later backups have been written. -/
theorem shrinking_backup_kept (s : Store) (t : FileTree) (ht : t.WellFormed)
    (pre : List SaveCall) (c : SaveCall) (post : List SaveCall)
    (hok : s.backupsSucceed t (pre ++ c :: post) = true)
    (hbefore : ∀ c' ∈ pre, backupName c'.now < backupName c.now)
    (hafter : ∀ c' ∈ post, backupName c.now < backupName c'.now)
    (hclear : ∀ n, backupName c.now ≤ n → t.find? (s.backupDir ++ [n]) = none)
    (henc : (encodeStateFile c.state).isOk = true)
    (hshrink : s.shrinks (s.afterSaves t pre) c = true)
    (hfew : s.options.maxBackups ≤ 0 ∨
      ((s.backupsWritten (s.afterSaves t (pre ++ [c])) post).length : Int) < s.options.maxBackups) :
    ∃ data, (s.afterSaves t pre).bytesAt s.path = .ok data ∧
      (s.afterSaves t (pre ++ c :: post)).bytesAt (s.backupDir ++ [backupName c.now]) = .ok data := by
  rw [backupsSucceed_append] at hok
  simp only [backupsSucceed, Bool.and_eq_true] at hok
  obtain ⟨hpre, hc, hpost⟩ := hok
  obtain ⟨data, hdata, -⟩ := shrinks_spec hshrink
  have hfile := file_ne_backups hc (backsUp_of_shrinks henc hshrink)
  -- before `c` nothing is named at or after its backup; `c` makes it; later saves keep it
  have h₁ := ClearFrom.run hfile pre ⟨ht, hclear⟩ hpre hbefore
  have h₂ := h₁.shrinking_step hfile hc henc hshrink hdata
  have h₃ := h₂.run hfile post hpost hafter (by simpa [afterSaves_append] using hfew)
  refine ⟨data, hdata, ?_⟩
  rw [afterSaves_append, afterSaves_cons]
  exact h₃.bytes

/-- Two accounts at 10:00, one at 11:00, two again at 17:00: the backup of the 11:00 save holds
the two-account file at the end. -/
theorem shrinking_backup_kept_over_regrowth :
    let s : Store := { dir := [] }
    let one : AppState := { accounts := [{ email := "a@x.com", ordinal := 1 }] }
    let two : AppState :=
      { accounts := [{ email := "a@x.com", ordinal := 1 }, { email := "b@x.com", ordinal := 2 }] }
    let pre : List SaveCall := [⟨⟨63872532000, 0, 0⟩, two, {}⟩]
    let c : SaveCall := ⟨⟨63872535600, 0, 0⟩, one, {}⟩
    let post : List SaveCall := [⟨⟨63872557200, 0, 0⟩, two, {}⟩]
    s.shrinks (s.afterSaves {} pre) c = true ∧
      ∃ data, (s.afterSaves {} pre).bytesAt s.path = .ok data ∧
        (s.afterSaves {} (pre ++ c :: post)).bytesAt (s.backupDir ++ [backupName c.now]) = .ok data := by
  intro s one two pre c post
  have hshrink : s.shrinks (s.afterSaves {} pre) c = true := by decide +kernel
  exact ⟨hshrink, shrinking_backup_kept s {} wellFormed_empty pre c post (by decide +kernel)
    (by decide +kernel) (by decide +kernel) (fun _ _ => rfl) (by decide +kernel) hshrink
    (by decide +kernel)⟩

/-- **A clock that goes back loses the backup.** With room for one backup, two saves at 12:00
leave the 12:00 backup; a save at 11:00 that drops an account backs up the two-account file under
an earlier name, and the prune that follows removes exactly that name. The one backup left holds
another file. -/
theorem earlier_clock_loses_shrinking_backup :
    let s : Store := { dir := [], options := { maxBackups := 1 } }
    let one : AppState := { accounts := [{ email := "a@x.com", ordinal := 1 }] }
    let two : AppState :=
      { accounts := [{ email := "a@x.com", ordinal := 1 }, { email := "b@x.com", ordinal := 2 }] }
    let noon : Instant := ⟨63872539200, 0, 0⟩
    let pre : List SaveCall := [⟨noon, one, {}⟩, ⟨noon, two, {}⟩]
    let c : SaveCall := ⟨⟨63872535600, 0, 0⟩, one, {}⟩
    s.backupsSucceed {} (pre ++ [c]) = true ∧ s.shrinks (s.afterSaves {} pre) c = true ∧
      ((s.afterSaves {} (pre ++ [c])).find? (s.backupDir ++ [backupName c.now])).isNone = true ∧
      (s.backupNames (s.afterSaves {} (pre ++ [c]))).toOption = some [backupName noon] ∧
      ((s.afterSaves {} (pre ++ [c])).bytesAt (s.backupDir ++ [backupName noon])).toOption ≠
        ((s.afterSaves {} pre).bytesAt s.path).toOption := by
  intro s one two noon pre c
  exact ⟨by decide +kernel, by decide +kernel, by decide +kernel, by decide +kernel, by decide +kernel⟩

end Store

end QuotaWatch
