import QuotaWatch.Proofs.Persist.Atomic
import Mathlib.Data.List.Count
import Mathlib.Data.List.Sort
import QuotaWatch.Proofs.Files.Listing
/-!
**The backup directory over a run of saves.**

A due save copies the state file into `backups/` under its clock reading, then prunes to the
newest `maxBackups` names. One save's effect on the directory, which names and which files,
gives the facts over whole runs.

Main definitions:

* `Store.backupPattern` — the names the pruning counts as backups;
* `Store.prunedNames` — the names a pruning removes;
* `Store.backupDue`, `Store.Listable` — when a save makes a backup, and a tree whose backup
  directory can be listed;
* `SaveCall`, `Store.saveStep`, `Store.afterSaves` — one save of a run, and a run of saves;
* `Store.backsUp`, `Store.backupOk`, `Store.backupsSucceed`, `Store.backupsWritten` — the saves
  that back up, and the backups a run writes.

Main results:

* `Store.backupNames_spec` — the names listed are the backups in the directory, in order;
* `Store.find?_prune` — pruning removes the oldest backups beyond the limit and nothing else;
* `Store.backup_spec`, `Store.backup_written` — a backup writes the state file's bytes under its
  clock reading;
* `Store.save_backups` — **one save's effect on the backup directory**.
-/

namespace QuotaWatch

open FileTree

namespace Store

variable {s : Store} {t t' : FileTree}

/-! ### Names in the backup directory -/

/-- Whether a name in the backup directory is a backup's: `state-…json`. -/
def backupPattern (n : String) : Bool := n.startsWith "state-" && n.endsWith ".json"

theorem under_backup_iff {n m : String} : under (s.backupDir ++ [n]) (s.backupDir ++ [m]) = true ↔ n = m := by
  constructor
  · intro h
    have := (under_iff.1 h).eq_of_length (by simp)
    simpa using this
  · rintro rfl
    exact under_self _

/-- The listing of the backup directory, when there is none, is empty. -/
theorem children_notFound {p : Path} {e : FsError} (h : t.children p = .error e)
    (hc : e.cause = .notFound) : t.find? p = none := by
  unfold children at h
  split at h
  · assumption
  all_goals cases h
  all_goals cases hc

/-- **The listing of backups is strictly increasing, and holds exactly the backup entries:**
the entries of the backup directory with a backup's name that are not directories. -/
theorem backupNames_spec (ht : t.WellFormed) {names : List String} (h : s.backupNames t = .ok names) :
    names.Pairwise (· < ·) ∧
      ∀ n, n ∈ names ↔ backupPattern n = true ∧
        ∃ e, t.find? (s.backupDir ++ [n]) = some e ∧ e.isDir = false := by
  unfold backupNames at h
  split at h
  · -- no directory: no backups
    rename_i e he
    split at h
    · rename_i hc
      cases h
      have hnone := children_notFound he hc
      refine ⟨List.Pairwise.nil, fun n => ?_⟩
      rw [ht.find?_of_under_none hnone (under_append _ _)]
      simp
    · cases h
  · rename_i cs hcs
    cases h
    refine ⟨(children_sorted ht hcs).filterMap _ fun a b hab x hx y hy => ?_, fun n => ?_⟩
    · simp only [Option.ite_none_right_eq_some, Option.some.injEq] at hx hy
      rw [← hx.2, ← hy.2]
      exact hab
    · rw [List.mem_filterMap]
      constructor
      · rintro ⟨⟨n', e⟩, hx, hxe⟩
        simp only [Option.ite_none_right_eq_some, Option.some.injEq] at hxe
        obtain ⟨hc, rfl⟩ := hxe
        have hf := (mem_children ht hcs).1 hx
        simp only [Bool.and_eq_true, Bool.not_eq_true'] at hc
        exact ⟨by simp only [backupPattern, Bool.and_eq_true]; exact ⟨hc.1.2, hc.2⟩, e, hf, hc.1.1⟩
      · rintro ⟨hpat, e, hf, he⟩
        refine ⟨(n, e), (mem_children ht hcs).2 hf, ?_⟩
        simp only [backupPattern, Bool.and_eq_true] at hpat
        simp [he, hpat]

/-! ### Removing backups -/

/-- What removing names of a directory, one after another, leaves at a path: nothing under a
removed name, and what was there elsewhere. -/
theorem find?_foldl_remove (base : Path) {q : Path} (hq : q ≠ []) :
    ∀ (ns : List String) (t : FileTree),
      (ns.foldl (fun t n => t.remove (base ++ [n])) t).find? q =
        if ns.any (fun n => under (base ++ [n]) q) then none else t.find? q
  | [], t => by simp
  | n :: ns, t => by
    rw [List.foldl_cons, find?_foldl_remove base hq ns, List.any_cons]
    cases hu : under (base ++ [n]) q
    · simp [find?_remove_of_not_under hu]
    · simp [find?_remove_of_under hu hq]

/-- The names a prune removes from a listing: the first ones beyond the limit, none when backups
are unlimited. -/
def prunedNames (s : Store) (names : List String) : List String :=
  if 0 < s.options.maxBackups then names.take (names.length - s.options.maxBackups.toNat) else []

/-- **What a prune leaves at a backup name**: nothing when it is among the names pruned from the
listing, and what was there otherwise. -/
theorem find?_prune {names : List String} (h : s.prune t = .ok t') (hnames : s.backupNames t = .ok names)
    (n : String) :
    t'.find? (s.backupDir ++ [n]) =
      if n ∈ s.prunedNames names then none else t.find? (s.backupDir ++ [n]) := by
  rcases prune_cases h with ⟨hmax, rfl⟩ | ⟨names', hnames', hmax, rfl⟩
  · have hnone : s.prunedNames names = [] := if_neg (by omega)
    simp [hnone]
  · rw [hnames] at hnames'
    cases hnames'
    rw [find?_foldl_remove _ (by simp), prunedNames, if_pos hmax]
    -- a removed name is under the backup exactly when it is the backup's name
    have hany : ((names.take (names.length - s.options.maxBackups.toNat)).any
        fun m => under (s.backupDir ++ [m]) (s.backupDir ++ [n])) =
        decide (n ∈ names.take (names.length - s.options.maxBackups.toNat)) := by
      rw [Bool.eq_iff_iff, List.any_eq_true, decide_eq_true_iff]
      constructor
      · rintro ⟨m, hm, hu⟩
        exact under_backup_iff.1 hu ▸ hm
      · intro hn
        exact ⟨n, hn, under_self _⟩
    rw [hany]
    by_cases hn : n ∈ names.take (names.length - s.options.maxBackups.toNat) <;> simp [hn]

/-- A prune leaves the backup directory itself as it was. -/
theorem prune_find?_backupDir (h : s.prune t = .ok t') : t'.find? s.backupDir = t.find? s.backupDir := by
  rcases prune_cases h with ⟨-, rfl⟩ | ⟨names, -, -, rfl⟩
  · rfl
  · rw [find?_foldl_remove _ (by simp [backupDir]), if_neg]
    simp only [List.any_eq_true, not_exists, not_and, Bool.not_eq_true]
    -- a removed name lies one level below the directory
    intro n _
    cases hu : under (s.backupDir ++ [n]) s.backupDir
    · rfl
    · have := length_le_of_under hu
      simp at this

/-- A name among the first `length - k` names of a strictly increasing listing has more than `k`
names at or after it. -/
theorem lt_length_filter_of_mem_take {names : List String} (hs : names.Pairwise (· < ·)) {k : Nat}
    {n : String} (hn : n ∈ names.take (names.length - k)) :
    k < (names.filter fun m => decide (n ≤ m)).length := by
  have hsplit := List.take_append_drop (names.length - k) names
  rw [← hsplit, List.pairwise_append] at hs
  have hpos := List.length_pos_of_mem hn
  simp only [List.length_take] at hpos
  -- everything after the first names is after `n`
  have hdrop : (names.drop (names.length - k)).filter (fun m => decide (n ≤ m)) =
      names.drop (names.length - k) :=
    List.filter_eq_self.2 fun m hm => decide_eq_true (le_of_lt (hs.2.2 n hn m hm))
  have hfirst : 0 < ((names.take (names.length - k)).filter fun m => decide (n ≤ m)).length :=
    List.length_pos_of_mem (List.mem_filter.2 ⟨hn, decide_eq_true (le_refl n)⟩)
  rw [← hsplit, List.filter_append, List.length_append, hdrop, List.length_drop]
  omega

/-- In a strictly increasing listing, the names at or after `n` are at most those of a list that
holds every one of them. -/
theorem length_filter_le {names W : List String} (hs : names.Pairwise (· < ·)) {n : String}
    (hsub : ∀ m ∈ names, n ≤ m → m ∈ n :: W) :
    (names.filter fun m => decide (n ≤ m)).length ≤ W.length + 1 := by
  have hnd : (names.filter fun m => decide (n ≤ m)).Nodup :=
    List.Nodup.sublist List.filter_sublist (hs.imp ne_of_lt)
  have hsub' : (names.filter fun m => decide (n ≤ m)) ⊆ n :: W := fun m hm => by
    rw [List.mem_filter, decide_eq_true_iff] at hm
    exact hsub m hm.1 hm.2
  simpa using (List.subperm_of_subset hnd hsub').length_le

/-- **A prune spares a name with fewer names after it than the limit allows.** -/
theorem not_mem_prunedNames {names W : List String} (hs : names.Pairwise (· < ·)) {n : String}
    (hsub : ∀ m ∈ names, n ≤ m → m ∈ n :: W)
    (hfew : s.options.maxBackups ≤ 0 ∨ (W.length : Int) < s.options.maxBackups) :
    n ∉ s.prunedNames names := by
  unfold prunedNames
  split
  · rename_i hmax
    intro hn
    have hmore := lt_length_filter_of_mem_take hs hn
    have hless := length_filter_le hs hsub
    omega
  · simp

/-! ### One backup -/

variable {now : Instant} {n : Nat} {fault : Option WriteFault}

/-- Whether a backup copies the state file: the file reads and the backup is not throttled. -/
def backupDue (s : Store) (t : FileTree) (now : Instant) (n : Nat) : Bool :=
  (t.bytesAt s.path).isOk && !s.backupThrottled t now n

/-- A backup that reports no failure either was not due and changed nothing, or read the state
file, made the backup directory, wrote the file under its name and pruned. -/
theorem backup_spec (hok : (s.backup t now n fault).2 = none) :
    (s.backupDue t now n = false ∧ (s.backup t now n fault).1 = t) ∨
    (s.backupDue t now n = true ∧ ∃ data t₁ t₂, t.bytesAt s.path = .ok data ∧
      t.mkdirAll s.backupDir now = .ok t₁ ∧
      t₁.writeAtomic (s.backupDir ++ [backupName now]) data now fault = (t₂, none) ∧
      s.prune t₂ = .ok (s.backup t now n fault).1) := by
  revert hok
  unfold backup
  split
  · rename_i e he
    split
    · intro _
      exact .inl ⟨by simp [backupDue, he, Except.isOk, Except.toBool], rfl⟩
    · intro hok
      cases hok
  · rename_i data hdata
    split
    · rename_i hthr
      intro _
      exact .inl ⟨by simp [backupDue, hdata, hthr, Except.isOk, Except.toBool], rfl⟩
    · rename_i hthr
      split
      · intro hok
        cases hok
      · rename_i t₁ h₁
        split
        · intro hok
          cases hok
        · rename_i t₂ h₂
          split
          · intro hok
            cases hok
          · rename_i t₃ h₃
            intro _
            exact .inr ⟨by simp [backupDue, hdata, hthr, Except.isOk, Except.toBool], data, t₁, t₂, hdata, h₁, h₂, h₃⟩

/-- The listing of a directory that exists can be made. -/
theorem backupNames_ok_of_dir {m : Instant} (h : t.find? s.backupDir = some (.dir m)) :
    ∃ names, s.backupNames t = .ok names := by
  simp only [backupNames, children, h]
  exact ⟨_, rfl⟩

/-- Whether the backup directory can be listed: it is a directory, or nothing is there. -/
def Listable (s : Store) (t : FileTree) : Prop :=
  t.find? s.backupDir = none ∨ ∃ m, t.find? s.backupDir = some (.dir m)

/-- **Where the backup directory can be listed, its listing is the strictly increasing list of
its backup files.** -/
theorem backupNames_eq_of_mem (ht : t.WellFormed) (hl : s.Listable t) {names : List String}
    (hs : names.Pairwise (· < ·))
    (hmem : ∀ n, n ∈ names ↔
      backupPattern n = true ∧ ∃ e, t.find? (s.backupDir ++ [n]) = some e ∧ e.isDir = false) :
    s.backupNames t = .ok names := by
  rcases hl with hnone | ⟨m, hdir⟩
  · -- no directory: no backup either
    have hnil : names = [] := List.eq_nil_iff_forall_not_mem.2 fun n hn => by
      obtain ⟨-, e, hf, -⟩ := (hmem n).1 hn
      rw [ht.find?_of_under_none hnone (under_append _ _)] at hf
      cases hf
    simp [backupNames, children, hnone, hnil]
  · obtain ⟨names', h'⟩ := backupNames_ok_of_dir hdir
    obtain ⟨hs', hmem'⟩ := backupNames_spec ht h'
    rw [h', List.Pairwise.eq_of_mem_iff hs' hs fun n => by rw [hmem', hmem]]

/-- Where a backup is written, the new file holds the state file, the other names show what
they showed, and the backup directory is a directory. -/
theorem backup_written (ht : t.WellFormed) {data : List UInt8} {t₁ t₂ : FileTree}
    (h₁ : t.mkdirAll s.backupDir now = .ok t₁)
    (h₂ : t₁.writeAtomic (s.backupDir ++ [backupName now]) data now fault = (t₂, none)) :
    t₂.WellFormed ∧ KeepsContents t t₂ ∧ t₂.bytesAt (s.backupDir ++ [backupName now]) = .ok data ∧
      (∀ m, m ≠ backupName now → t₂.find? (s.backupDir ++ [m]) = t.find? (s.backupDir ++ [m])) ∧
      ∃ m, t₂.find? s.backupDir = some (.dir m) := by
  have hwf₁ := ht.mkdirAll h₁
  have hp : s.backupDir ++ [backupName now] ≠ [] := by simp
  have c₂ := writeAtomic_confined hwf₁ hp h₂
  obtain ⟨-, hdirs, -, hcont, hnext⟩ := mkdirAll_spec h₁
  refine ⟨c₂.wellFormed, (KeepsContents.of_eq hcont hnext).trans c₂.keeps,
    writeAtomic_written hwf₁ hp h₂ rfl, fun m hm => ?_, ?_⟩
  · have hnu : under (s.backupDir ++ [backupName now]) (s.backupDir ++ [m]) = false := by
      cases hu : under (s.backupDir ++ [backupName now]) (s.backupDir ++ [m])
      · rfl
      · exact absurd (under_backup_iff.1 hu).symm hm
    rw [c₂.frame _ hnu, find?_mkdirAll_of_length_lt h₁ (by simp)]
  · -- the directory was made, and the write left it
    have hbd : s.backupDir ∈ dirChain s.backupDir :=
      List.mem_map.2 ⟨s.backupDir.length - 1, List.mem_range.2 (by simp [backupDir]),
        by rw [Nat.sub_add_cancel (by simp [backupDir]), List.take_length]⟩
    obtain ⟨m, hm⟩ := hdirs _ hbd
    have hnu : under (s.backupDir ++ [backupName now]) s.backupDir = false := by
      cases hu : under (s.backupDir ++ [backupName now]) s.backupDir
      · rfl
      · have := length_le_of_under hu
        simp only [List.length_append, List.length_singleton] at this
        omega
    exact ⟨m, (c₂.frame _ hnu).trans hm⟩

end Store

/-! ### One save -/

/-- One save of a run: the clock reading, the state it writes, and the calls the system
refuses. -/
structure SaveCall where
  now : Instant
  state : AppState
  faults : SaveFaults := {}

namespace Store

variable {s : Store} {t : FileTree} {c : SaveCall}

/-- The tree after one save. -/
def saveStep (s : Store) (t : FileTree) (c : SaveCall) : FileTree := (s.saveWith c.faults t c.now c.state).1

/-- Whether a save makes a backup: its state has a text, and the backup is due. -/
def backsUp (s : Store) (t : FileTree) (c : SaveCall) : Bool :=
  (encodeStateFile c.state).isOk && s.backupDue t c.now c.state.accounts.length

/-- Whether the backup of a save, if the save gets that far, reports no failure. -/
def backupOk (s : Store) (t : FileTree) (c : SaveCall) : Bool :=
  !(encodeStateFile c.state).isOk || (s.backup t c.now c.state.accounts.length c.faults.backup).2.isNone

/-- The backups lie outside the state file, unless the state file is named as their directory. -/
theorem under_path_backupDir (hfile : s.file ≠ "backups") (r : Path) :
    under s.path (s.backupDir ++ r) = false := by
  cases hu : under s.path (s.backupDir ++ r)
  · rfl
  · obtain ⟨r', hr'⟩ := under_iff.1 hu
    simp only [path, backupDir, List.append_assoc, List.singleton_append, List.append_cancel_left_eq,
      List.cons.injEq] at hr'
    exact absurd hr'.1 hfile

theorem saveStep_of_encode_error {e : EncodeError} (henc : encodeStateFile c.state = .error e) :
    s.saveStep t c = t := by
  simp only [saveStep, saveWith, henc]

theorem saveStep_of_encode_ok {text : String} (henc : encodeStateFile c.state = .ok text) :
    s.saveStep t c = ((s.backup t c.now c.state.accounts.length c.faults.backup).1.writeAtomic s.path
      (Utf8.bytesOf text) c.now c.faults.state).1 := by
  simp only [saveStep, saveWith, henc]
  split <;> rename_i hw <;> rw [hw]

/-- **What one save does to the backup directory.** A save that makes no backup leaves every
backup name as it was. A save that makes one first writes the state file it replaces under its
own name, leaving the other names alone, and then prunes the listing it finds; the write of the
new state file does not touch the backups. Either way the backup directory can still be listed. -/
theorem save_backups (ht : t.WellFormed) (hfile : s.file ≠ "backups") (hok : s.backupOk t c = true) :
    (s.saveStep t c).WellFormed ∧ KeepsContents t (s.saveStep t c) ∧
    (s.backsUp t c = false →
      ∀ m, (s.saveStep t c).find? (s.backupDir ++ [m]) = t.find? (s.backupDir ++ [m])) ∧
    (s.backsUp t c = true → ∃ data t₂ names, t.bytesAt s.path = .ok data ∧
      t₂.WellFormed ∧ KeepsContents t t₂ ∧ t₂.bytesAt (s.backupDir ++ [backupName c.now]) = .ok data ∧
      (∀ m, m ≠ backupName c.now → t₂.find? (s.backupDir ++ [m]) = t.find? (s.backupDir ++ [m])) ∧
      s.backupNames t₂ = .ok names ∧ KeepsContents t₂ (s.saveStep t c) ∧
      ∀ m, (s.saveStep t c).find? (s.backupDir ++ [m]) =
        if m ∈ s.prunedNames names then none else t₂.find? (s.backupDir ++ [m])) ∧
    (s.Listable t → s.Listable (s.saveStep t c)) := by
  cases henc : encodeStateFile c.state with
  | error e =>
    -- a state with no text: nothing is written
    have hnot : s.backsUp t c = false := by simp [backsUp, henc, Except.isOk, Except.toBool]
    rw [saveStep_of_encode_error henc]
    exact ⟨ht, .refl t, fun _ _ => rfl, (fun h => by rw [hnot] at h; cases h), id⟩
  | ok text =>
    have hbok : (s.backup t c.now c.state.accounts.length c.faults.backup).2 = none := by
      simpa [backupOk, henc, Except.isOk, Except.toBool] using hok
    have hwf₃ : (s.backup t c.now c.state.accounts.length c.faults.backup).1.WellFormed :=
      (backup_confined ht).wellFormed
    -- the state file's write leaves the backups as the backup left them
    have c₄ : Confined s.path (s.backup t c.now c.state.accounts.length c.faults.backup).1 (s.saveStep t c) := by
      rw [saveStep_of_encode_ok henc]
      exact writeAtomic_confined hwf₃ s.path_ne_nil rfl
    have hframe := fun m => c₄.frame (s.backupDir ++ [m]) (under_path_backupDir hfile [m])
    have hdir : (s.saveStep t c).find? s.backupDir =
        (s.backup t c.now c.state.accounts.length c.faults.backup).1.find? s.backupDir := by
      exact c₄.frame s.backupDir (by simpa using under_path_backupDir hfile [])
    rcases backup_spec hbok with ⟨hdue, hsame⟩ | ⟨hdue, data, t₁, t₂, hdata, h₁, h₂, h₃⟩
    · have hnot : s.backsUp t c = false := by simp [backsUp, hdue]
      rw [hsame] at c₄ hframe hdir
      refine ⟨c₄.wellFormed, c₄.keeps, fun _ m => hframe m, (fun h => by rw [hnot] at h; cases h), ?_⟩
      unfold Listable
      rw [hdir]
      exact id
    · obtain ⟨hwf₂, hk₂, hbytes, hother, m₂, hdir₂⟩ := backup_written ht h₁ h₂
      have c₃ := prune_confined hwf₂ h₃
      refine ⟨c₄.wellFormed, (hk₂.trans c₃.keeps).trans c₄.keeps, fun h => ?_,
        fun _ => ⟨data, t₂, _, hdata, hwf₂, hk₂, hbytes, hother, (backupNames_ok_of_dir hdir₂).choose_spec,
          c₃.keeps.trans c₄.keeps, fun m => ?_⟩, fun _ => .inr ⟨m₂, ?_⟩⟩
      · simp [backsUp, henc, hdue, Except.isOk, Except.toBool] at h
      · rw [hframe m, find?_prune h₃ (backupNames_ok_of_dir hdir₂).choose_spec m]
      · rw [hdir, prune_find?_backupDir h₃, hdir₂]

/-! ### Runs of saves -/

/-- The tree after a run of saves. -/
def afterSaves (s : Store) (t : FileTree) (cs : List SaveCall) : FileTree := cs.foldl s.saveStep t

/-- Whether every backup of a run, where its save gets that far, reports no failure. -/
def backupsSucceed (s : Store) : FileTree → List SaveCall → Bool
  | _, [] => true
  | t, c :: cs => s.backupOk t c && s.backupsSucceed (s.saveStep t c) cs

/-- The names of the backups a run writes, in order. -/
def backupsWritten (s : Store) : FileTree → List SaveCall → List String
  | _, [] => []
  | t, c :: cs =>
    (if s.backsUp t c then [backupName c.now] else []) ++ s.backupsWritten (s.saveStep t c) cs

@[simp] theorem afterSaves_nil : s.afterSaves t [] = t := rfl

@[simp] theorem afterSaves_cons {cs : List SaveCall} :
    s.afterSaves t (c :: cs) = s.afterSaves (s.saveStep t c) cs := rfl

theorem afterSaves_append {cs cs' : List SaveCall} :
    s.afterSaves t (cs ++ cs') = s.afterSaves (s.afterSaves t cs) cs' := List.foldl_append

theorem backupsSucceed_append {cs cs' : List SaveCall} :
    s.backupsSucceed t (cs ++ cs') = (s.backupsSucceed t cs && s.backupsSucceed (s.afterSaves t cs) cs') := by
  induction cs generalizing t with
  | nil => simp [backupsSucceed]
  | cons c cs ih => simp [backupsSucceed, ih, Bool.and_assoc]

end Store

end QuotaWatch
