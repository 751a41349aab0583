import QuotaWatch.Proofs.Persist.Backups
/-!
**Which backups a run of saves keeps.**

Each backup is written under its own name and the directory pruned to the last `maxBackups` names
of its sorted listing. The invariant says the listing holds the greatest of all names it has
held, as many as the limit allows, so every name gone is below every name kept; one backup and its
prune keep it and a save without backup leaves the listing alone. Only the order of names counts,
not the clock.

Main definitions:

* `Store.keptNames` — the names a prune keeps;
* `Store.KeepsNewest` — a listing that holds the greatest names it has held, as many as the limit
  allows;
* `Store.MostRecent` — a listing that holds the names written last;
* `Store.NewestKept` — the invariant of a run of saves: the backup directory keeps the newest of
  the names written so far.

Main results:

* `Store.KeepsNewest.add` — a backup and its prune keep the newest names;
* `Store.KeepsNewest.mostRecent` — where names are written in increasing order, the newest are
  the most recent;
* `Store.backupNames_saveStep` — the listing after one save;
* `Store.NewestKept.step`, `Store.NewestKept.run` — one save and a whole run of saves whose
  backups succeed keep the newest names.
-/

namespace QuotaWatch

open FileTree

namespace Store

variable {s : Store}

/-! ### The names a prune keeps -/

/-- The names a prune leaves of a listing: the last ones, as many as the limit allows, or all of
them when backups are unlimited. -/
def keptNames (s : Store) (names : List String) : List String :=
  if 0 < s.options.maxBackups then names.drop (names.length - s.options.maxBackups.toNat) else names

section Kept

variable {names : List String}

theorem prunedNames_append_keptNames (names : List String) :
    s.prunedNames names ++ s.keptNames names = names := by
  unfold prunedNames keptNames
  split <;> simp

/-- A strictly increasing listing is its pruned names, then its kept names, each below the next. -/
theorem pairwise_pruned_kept (hs : names.Pairwise (· < ·)) :
    (s.prunedNames names ++ s.keptNames names).Pairwise (· < ·) := by
  rw [prunedNames_append_keptNames]
  exact hs

theorem keptNames_sorted (hs : names.Pairwise (· < ·)) : (s.keptNames names).Pairwise (· < ·) :=
  (List.pairwise_append.1 (pairwise_pruned_kept hs)).2.1

theorem lt_of_mem_pruned_of_mem_kept (hs : names.Pairwise (· < ·)) {n m : String}
    (hn : n ∈ s.prunedNames names) (hm : m ∈ s.keptNames names) : n < m :=
  (List.pairwise_append.1 (pairwise_pruned_kept hs)).2.2 n hn m hm

theorem mem_keptNames (hs : names.Pairwise (· < ·)) {n : String} :
    n ∈ s.keptNames names ↔ n ∈ names ∧ n ∉ s.prunedNames names := by
  constructor
  · intro hn
    refine ⟨?_, fun hp => lt_irrefl n (lt_of_mem_pruned_of_mem_kept hs hp hn)⟩
    rw [← prunedNames_append_keptNames (s := s) names]
    exact List.mem_append_right _ hn
  · rintro ⟨hn, hp⟩
    rw [← prunedNames_append_keptNames (s := s) names, List.mem_append] at hn
    exact hn.resolve_left hp

theorem length_keptNames (hk : 0 < s.options.maxBackups) :
    (s.keptNames names).length = min names.length s.options.maxBackups.toNat := by
  simp only [keptNames, if_pos hk, List.length_drop]
  omega

/-- A prune that removes a name leaves exactly as many names as the limit allows. -/
theorem length_keptNames_of_mem_pruned {n : String} (hn : n ∈ s.prunedNames names) :
    0 < s.options.maxBackups ∧ ((s.keptNames names).length : Int) = s.options.maxBackups := by
  unfold prunedNames at hn
  split at hn
  · rename_i hk
    have hpos := List.length_pos_of_mem hn
    rw [List.length_take] at hpos
    refine ⟨hk, ?_⟩
    rw [length_keptNames hk]
    omega
  · cases hn

end Kept

/-! ### Keeping the newest names -/

/-- The listing `names` keeps the newest of the backup names `seen`: it holds only names seen, no
more than the limit, and a name seen but gone is below every name kept, which are then as many as
the limit allows. -/
structure KeepsNewest (s : Store) (seen names : List String) : Prop where
  mem_seen : ∀ n ∈ names, n ∈ seen
  length_le : 0 < s.options.maxBackups → (names.length : Int) ≤ s.options.maxBackups
  gone : ∀ n ∈ seen, n ∉ names →
    0 < s.options.maxBackups ∧ (names.length : Int) = s.options.maxBackups ∧ ∀ m ∈ names, n < m

section Add

variable {seen names names₂ : List String} {x : String}

/-- The listing a backup under `x` makes of `names`: every name before, and `x`. -/
abbrev Adds (names names₂ : List String) (x : String) : Prop := ∀ n, n ∈ names₂ ↔ n ∈ names ∨ n = x

theorem mem_seen_of_adds (h : s.KeepsNewest seen names) (hadd : Adds names names₂ x) {n : String}
    (hn : n ∈ names₂) : n ∈ seen ++ [x] := by
  rcases (hadd n).1 hn with hn | rfl
  · exact List.mem_append_left _ (h.mem_seen n hn)
  · exact List.mem_append_right _ (List.mem_singleton_self _)

/-- With a new name above a name already gone, the listing grows by one, and its smallest name is
pruned: every name kept is above the one gone. -/
theorem lt_of_gone_of_adds (h : s.KeepsNewest seen names) (hs : names.Pairwise (· < ·))
    (hs₂ : names₂.Pairwise (· < ·)) (hadd : Adds names names₂ x) {n : String} (hn : n ∈ seen)
    (hgone : n ∉ names) {m : String} (hm : m ∈ s.keptNames names₂) : n < m := by
  obtain ⟨hk, hlen, hbelow⟩ := h.gone n hn hgone
  rcases (hadd m).1 ((mem_keptNames hs₂).1 hm).1 with hm' | rfl
  · exact hbelow m hm'
  by_cases hx : m ∈ names
  · exact hbelow m hx
  -- `m` is new: the listing is `m` and the old names, one over the limit
  have hperm : names₂.Perm (m :: names) :=
    (List.perm_ext_iff_of_nodup (hs₂.imp ne_of_lt) (List.nodup_cons.2 ⟨hx, hs.imp ne_of_lt⟩)).2
      fun a => by rw [hadd a, List.mem_cons, or_comm]
  have hne : names₂ ≠ [] := fun hnil => by simp [hnil] at hperm
  obtain ⟨y, tl, rfl⟩ := List.exists_cons_of_ne_nil hne
  have hlen₂ : tl.length = s.options.maxBackups.toNat := by
    have := hperm.length_eq
    simp only [List.length_cons] at this
    omega
  have hkept : s.keptNames (y :: tl) = tl := by
    simp only [keptNames, if_pos hk, List.length_cons, hlen₂, Nat.add_sub_cancel_left]
    rfl
  rw [hkept] at hm
  -- the first name is below `m`, and it is an old name
  have hym : y < m := List.rel_of_pairwise_cons hs₂ hm
  rcases (hadd y).1 List.mem_cons_self with hy | rfl
  · exact lt_trans (hbelow y hy) hym
  · exact absurd hym (lt_irrefl y)

/-- **A backup and its prune keep the newest names.** A listing that keeps the newest names seen,
with a new name added and then pruned, keeps the newest of the names seen and the new one. -/
theorem KeepsNewest.add (h : s.KeepsNewest seen names) (hs : names.Pairwise (· < ·))
    (hs₂ : names₂.Pairwise (· < ·)) (hadd : Adds names names₂ x) :
    s.KeepsNewest (seen ++ [x]) (s.keptNames names₂) := by
  refine ⟨fun n hn => mem_seen_of_adds h hadd ((mem_keptNames hs₂).1 hn).1, fun hk => ?_,
    fun n hn hgone => ?_⟩
  · rw [length_keptNames hk]
    omega
  by_cases hn₂ : n ∈ names₂
  · -- pruned now: below every name kept, and the prune left as many as the limit
    have hp : n ∈ s.prunedNames names₂ := by
      by_contra hp
      exact hgone ((mem_keptNames hs₂).2 ⟨hn₂, hp⟩)
    obtain ⟨hk, hlen⟩ := length_keptNames_of_mem_pruned hp
    exact ⟨hk, hlen, fun m hm => lt_of_mem_pruned_of_mem_kept hs₂ hp hm⟩
  · -- gone before: the new name joined names above it
    have hold : n ∉ names := fun h' => hn₂ ((hadd n).2 (.inl h'))
    have hnx : n ≠ x := fun h' => hn₂ ((hadd n).2 (.inr h'))
    have hseen : n ∈ seen := by
      rw [List.mem_append, List.mem_singleton] at hn
      exact hn.resolve_right hnx
    obtain ⟨hk, hlen, -⟩ := h.gone n hseen hold
    have hsub : names.length ≤ names₂.length :=
      (List.subperm_of_subset (hs.imp ne_of_lt) fun a ha => (hadd a).2 (.inl ha)).length_le
    refine ⟨hk, ?_, fun m hm => lt_of_gone_of_adds h hs hs₂ hadd hseen hold hm⟩
    rw [length_keptNames hk]
    omega

end Add

/-! ### The newest names are the latest written -/

section Recent

variable {seen names : List String}

/-- A listing that keeps the newest names ends with the greatest name seen. -/
theorem KeepsNewest.getLast? (h : s.KeepsNewest seen names) (hs : names.Pairwise (· < ·)) {n : String}
    (hn : n ∈ seen) : ∃ m, names.getLast? = some m ∧ n ≤ m ∧ m ∈ seen := by
  have hne : names ≠ [] := by
    by_cases hin : n ∈ names
    · exact List.ne_nil_of_mem hin
    · obtain ⟨hk, hlen, -⟩ := h.gone n hn hin
      rintro rfl
      simp only [List.length_nil] at hlen
      omega
  -- every name of the listing is at most its last
  have hsplit := List.dropLast_append_getLast hne
  have hle : ∀ a ∈ names, a ≤ names.getLast hne := by
    intro a ha
    rw [← hsplit, List.mem_append, List.mem_singleton] at ha
    rcases ha with ha | ha
    · rw [← hsplit, List.pairwise_append] at hs
      exact le_of_lt (hs.2.2 a ha _ (List.mem_singleton_self _))
    · exact le_of_eq ha
  refine ⟨names.getLast hne, List.getLast?_eq_some_getLast hne, ?_, h.mem_seen _ (List.getLast_mem hne)⟩
  by_cases hin : n ∈ names
  · exact hle n hin
  · exact le_of_lt ((h.gone n hn hin).2.2 _ (List.getLast_mem hne))

/-- `names` holds the most recent of the backups `written`, given in the order they were written:
only names written, no more than the limit, as many as the limit once one is gone, and every one
gone written before every one kept. -/
structure MostRecent (s : Store) (written names : List String) : Prop where
  mem_written : ∀ n ∈ names, n ∈ written
  length_le : 0 < s.options.maxBackups → (names.length : Int) ≤ s.options.maxBackups
  full : ∀ n ∈ written, n ∉ names → (names.length : Int) = s.options.maxBackups
  before : ∀ i j (hi : i < written.length) (hj : j < written.length),
    written[i] ∉ names → written[j] ∈ names → i < j

/-- **Where names are written in increasing order, the newest are the most recent.** -/
theorem KeepsNewest.mostRecent (h : s.KeepsNewest seen names) (hsorted : seen.Pairwise (· ≤ ·)) :
    s.MostRecent seen names := by
  refine ⟨h.mem_seen, h.length_le, fun n hn hgone => (h.gone n hn hgone).2.1,
    fun i j hi hj hgone hkept => ?_⟩
  -- a name gone is below every name kept, and a name written later is no smaller
  have hlt := (h.gone _ (List.getElem_mem hi) hgone).2.2 _ hkept
  by_contra hji
  rcases Nat.eq_or_lt_of_le (not_lt.1 hji) with rfl | hji'
  · exact lt_irrefl _ hlt
  · exact absurd (List.pairwise_iff_getElem.1 hsorted j i hj hi hji') (not_le.2 hlt)

end Recent

/-! ### The listing over a run of saves -/

variable {t : FileTree} {c : SaveCall}

/-- The name of a backup matches the names the listing takes. -/
theorem backupPattern_backupName (now : Instant) : backupPattern (backupName now) = true := by
  simp only [backupPattern, backupName, Bool.and_eq_true]
  constructor
  · simp
  · rw [String.endsWith, String.Slice.endsWith_string_iff, String.copy_toSlice, String.toList_append]
    exact List.suffix_append _ _

theorem Listable.of_backupNames {names : List String} (h : s.backupNames t = .ok names) :
    s.Listable t := by
  unfold Listable
  cases hd : t.find? s.backupDir with
  | none => exact .inl rfl
  | some e =>
    cases e with
    | file id m => simp [backupNames, children, hd] at h
    | socket m => simp [backupNames, children, hd] at h
    | dir m => exact .inr ⟨m, rfl⟩

/-- **The listing after one save.** A save that makes no backup leaves the listing as it was; a
save that makes one lists, after its prune, the names a prune keeps of the names before and its
own. -/
theorem backupNames_saveStep (ht : t.WellFormed) (hfile : s.file ≠ "backups") (hok : s.backupOk t c = true)
    (hl : s.Listable t) {names : List String} (hnames : s.backupNames t = .ok names) :
    s.Listable (s.saveStep t c) ∧
    (s.backsUp t c = false → s.backupNames (s.saveStep t c) = .ok names) ∧
    (s.backsUp t c = true → ∃ names₂, names₂.Pairwise (· < ·) ∧ Adds names names₂ (backupName c.now) ∧
      s.backupNames (s.saveStep t c) = .ok (s.keptNames names₂)) := by
  obtain ⟨hwf, -, hsame, hmade, hlist⟩ := save_backups ht hfile hok
  obtain ⟨hs, hmem⟩ := backupNames_spec ht hnames
  have hl' := hlist hl
  refine ⟨hl', fun hb => backupNames_eq_of_mem hwf hl' hs fun n => ?_, fun hb => ?_⟩
  · rw [hmem, hsame hb n]
  obtain ⟨data, t₂, names₂, -, hwf₂, -, hbytes, hother, hnames₂, -, hafter⟩ := hmade hb
  obtain ⟨hs₂, hmem₂⟩ := backupNames_spec hwf₂ hnames₂
  refine ⟨names₂, hs₂, fun n => ?_, backupNames_eq_of_mem hwf hl' (keptNames_sorted hs₂) fun n => ?_⟩
  · -- the listing the prune found: the names before, and the file just written
    rw [hmem₂, hmem]
    by_cases hn : n = backupName c.now
    · subst hn
      obtain ⟨-, id, m, hf, -⟩ := bytesAt_eq_ok_iff.1 hbytes
      simp [backupPattern_backupName, hf, Entry.isDir]
    · rw [hother n hn]
      simp [hn]
  · rw [mem_keptNames hs₂, hafter n, hmem₂]
    by_cases hp : n ∈ s.prunedNames names₂ <;> simp [hp]

theorem backupsWritten_append {cs cs' : List SaveCall} :
    s.backupsWritten t (cs ++ cs') = s.backupsWritten t cs ++ s.backupsWritten (s.afterSaves t cs) cs' := by
  induction cs generalizing t with
  | nil => rfl
  | cons c cs ih => simp [backupsWritten, ih]

/-- The backups a run writes are named for some of its saves, in order. -/
theorem backupsWritten_sublist (t : FileTree) (cs : List SaveCall) :
    (s.backupsWritten t cs).Sublist (cs.map fun c => backupName c.now) := by
  induction cs generalizing t with
  | nil => exact List.Sublist.slnil
  | cons c cs ih =>
    simp only [backupsWritten, List.map_cons]
    split
    · exact (ih _).cons_cons _
    · exact (ih _).cons _

/-- The invariant of a run: the backup directory can be listed, and its listing keeps the newest
of the names seen. -/
structure NewestKept (s : Store) (seen : List String) (t : FileTree) : Prop where
  wellFormed : t.WellFormed
  listable : s.Listable t
  listing : ∃ names, s.backupNames t = .ok names ∧ s.KeepsNewest seen names

variable {seen : List String}

/-- Before the first save the directory keeps the names it has, if they are within the limit. -/
theorem NewestKept.start (ht : t.WellFormed) {names : List String} (hnames : s.backupNames t = .ok names)
    (hfew : 0 < s.options.maxBackups → (names.length : Int) ≤ s.options.maxBackups) :
    NewestKept s names t :=
  ⟨ht, .of_backupNames hnames, names, hnames, fun _ hn => hn, hfew, fun _ hn hgone => absurd hn hgone⟩

theorem NewestKept.step (h : NewestKept s seen t) (hfile : s.file ≠ "backups") (hok : s.backupOk t c = true) :
    NewestKept s (seen ++ if s.backsUp t c then [backupName c.now] else []) (s.saveStep t c) := by
  obtain ⟨names, hnames, hkeep⟩ := h.listing
  obtain ⟨hl, hsame, hmade⟩ := backupNames_saveStep h.wellFormed hfile hok h.listable hnames
  have hwf := (save_backups h.wellFormed hfile hok).1
  cases hb : s.backsUp t c
  · exact ⟨hwf, hl, names, hsame hb, by simpa using hkeep⟩
  · obtain ⟨names₂, hs₂, hadd, hnames₂⟩ := hmade hb
    exact ⟨hwf, hl, _, hnames₂, by
      simpa using hkeep.add (backupNames_spec h.wellFormed hnames).1 hs₂ hadd⟩

/-- **Over a run of saves whose backups succeed, the directory lists the newest names**: of the
names seen before and the backups the run wrote. -/
theorem NewestKept.run (hfile : s.file ≠ "backups") (cs : List SaveCall) (h : NewestKept s seen t)
    (hok : s.backupsSucceed t cs = true) :
    NewestKept s (seen ++ s.backupsWritten t cs) (s.afterSaves t cs) := by
  induction cs generalizing t seen with
  | nil => simpa [backupsWritten] using h
  | cons c cs ih =>
    simp only [backupsSucceed, Bool.and_eq_true] at hok
    have := ih (h.step hfile hok.1) hok.2
    simpa [backupsWritten, List.append_assoc] using this

end Store

end QuotaWatch
