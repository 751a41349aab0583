import QuotaWatch.Persist.Store
import QuotaWatch.Proofs.Files.Frame
/-!
**Saving the state, all or nothing.**

A save writes a fresh temporary file beside the state file, renames it over the state file and
removes it at the end, perhaps after a backup. Any call may be refused, yet a reader sees the old
state or the new one whole.

Main definitions:

* `FileTree.Confined` — a change that keeps a tree well formed and its contents, and changes
  nothing outside a directory;
* `Store.SaveOutcome` — what a save leaves: the old state file or the new one, the rest confined
  to the backups.

Main results:

* `writeAtomic_failed`, `writeAtomic_written` — a refused write shows nothing new, a write that
  succeeds leaves its target a file of the data;
* `writeAtomic_frame`, `writeAtomic_confined` — a write changes nothing but its target;
* `Store.backup_confined` — a backup changes nothing outside the backups;
* `Store.saveWith_outcome` — every save ends in a `Store.SaveOutcome`;
* `Store.save_all_or_nothing` — **saves are all or nothing**, whatever calls are refused.
-/

namespace QuotaWatch

open FileTree

variable {t t' : FileTree} {p q : Path}

/-! ### The temporary file -/

private theorem tempName_ne (b : String) (n : Nat) : "." ++ b ++ "." ++ toString n ++ ".tmp" ≠ b := by
  intro h
  have := congrArg String.length h
  simp only [String.length_append] at this
  have h₁ : ".".length = 1 := rfl
  have h₂ : ".tmp".length = 4 := rfl
  omega

theorem tempPath_length (hp : p ≠ []) (n : Nat) : (tempPath p n).length = p.length := by
  have := List.length_pos_iff.2 hp
  simp [tempPath, Path.parent]
  omega

theorem take_tempPath (hp : p ≠ []) (n : Nat) {i : Nat} (hi : i < p.length) :
    (tempPath p n).take i = p.take i := by
  have hlast := List.dropLast_concat_getLast hp
  rw [tempPath, Path.parent, List.take_append_of_le_length (by simp; omega)]
  conv => rhs; rw [← hlast]
  rw [List.take_append_of_le_length (by simp; omega)]

theorem tempPath_ne (hp : p ≠ []) (n : Nat) : tempPath p n ≠ p := by
  intro h
  have hlast := List.dropLast_concat_getLast hp
  have hbase : p.base = p.getLast hp := by
    simp [Path.base, List.getLastD_eq_getLast?, List.getLast?_eq_some_getLast hp]
  rw [tempPath, Path.parent] at h
  conv at h => rhs; rw [← hlast]
  have := List.append_inj_right' h rfl
  simp only [List.cons.injEq, and_true] at this
  exact tempName_ne p.base n (hbase ▸ this)

/-- The temporary file and the target are beside each other: neither lies under the other. -/
theorem under_tempPath (hp : p ≠ []) (n : Nat) :
    under p (tempPath p n) = false ∧ under (tempPath p n) p = false := by
  have hlen := tempPath_length hp n
  constructor
  · cases hu : under p (tempPath p n)
    · rfl
    · exact absurd ((under_iff.1 hu).eq_of_length hlen.symm).symm (tempPath_ne hp n)
  · cases hu : under (tempPath p n) p
    · rfl
    · exact absurd ((under_iff.1 hu).eq_of_length hlen) (tempPath_ne hp n)

theorem parentProblem_tempPath (hp : p ≠ []) (n : Nat) :
    t.parentProblem (tempPath p n) = t.parentProblem p :=
  parentProblem_eq_of_take (tempPath_length hp n) fun _ hi => take_tempPath hp n hi

/-- A free temporary path names nothing and is the temporary file of some try. -/
theorem freeTemp_spec {tmp : Path} : ∀ {tries n : Nat}, t.freeTemp p tries n = some tmp →
    t.find? tmp = none ∧ ∃ k, tmp = tempPath p k
  | 0, _, h => by cases h
  | tries + 1, n, h => by
    unfold freeTemp at h
    split at h
    · exact freeTemp_spec h
    · rename_i hfree
      cases h
      refine ⟨?_, n, rfl⟩
      simpa [exists_] using hfree

/-! ### Changes confined to a directory -/

namespace FileTree

/-- `t'` keeps `t` well formed and its contents, and shows every path outside `base` as `t`
does. -/
structure Confined (base : Path) (t t' : FileTree) : Prop where
  wellFormed : t'.WellFormed
  keeps : KeepsContents t t'
  frame : ∀ q, under base q = false → t'.find? q = t.find? q

variable {base : Path}

theorem Confined.refl (ht : t.WellFormed) : Confined base t t := ⟨ht, .refl t, fun _ _ => rfl⟩

theorem Confined.trans {t₁ t₂ t₃ : FileTree} (h₁ : Confined base t₁ t₂) (h₂ : Confined base t₂ t₃) :
    Confined base t₁ t₃ :=
  ⟨h₂.wellFormed, h₁.keeps.trans h₂.keeps, fun q hq => (h₂.frame q hq).trans (h₁.frame q hq)⟩

/-- A change confined to a path is confined to every ancestor of it. -/
theorem Confined.widen (r : Path) (h : Confined (base ++ r) t t') : Confined base t t' :=
  ⟨h.wellFormed, h.keeps, fun q hq => h.frame q (under_append_eq_false r hq)⟩

theorem remove_confined (ht : t.WellFormed) (p : Path) : Confined p t (t.remove p) :=
  ⟨ht.remove p, keepsContents_remove t p, fun _ hq => find?_remove_of_not_under hq⟩

/-- Removing names in a directory, one after another, changes nothing outside it. -/
theorem foldl_remove_confined (base : Path) :
    ∀ (ns : List String) {t : FileTree}, t.WellFormed →
      Confined base t (ns.foldl (fun t n => t.remove (base ++ [n])) t)
  | [], _, ht => .refl ht
  | n :: ns, _, ht =>
    ((remove_confined ht (base ++ [n])).widen [n]).trans (foldl_remove_confined base ns (ht.remove _))

/-- Making the directories of a path whose ancestors are directories changes nothing outside it. -/
theorem mkdirAll_confined (ht : t.WellFormed) (hpp : t.parentProblem p = none) {now : Instant}
    (h : t.mkdirAll p now = .ok t') : Confined p t t' := by
  obtain ⟨hfind, -, -, hcont, hnext⟩ := mkdirAll_spec h
  refine ⟨ht.mkdirAll h, .of_eq hcont hnext, fun q hq => ?_⟩
  rcases hfind q with hkept | ⟨hnone, hchain, -⟩
  · exact hkept
  · -- a directory of the chain is the path itself, or an ancestor, which was a directory
    obtain ⟨i, hi, rfl⟩ := List.mem_map.1 hchain
    have hi := List.mem_range.1 hi
    by_cases hlast : i + 1 = p.length
    · rw [hlast, List.take_length, under_self] at hq
      cases hq
    · obtain ⟨m, hm⟩ := parentProblem_eq_none_iff.1 hpp (i + 1) (by omega)
      rw [hm] at hnone
      cases hnone

end FileTree

/-! ### Writing through a temporary file -/

section Write

variable {data : List UInt8} {now : Instant} {fault : Option WriteFault} {r : Option FsError}

/-- How a write ends: refused before its temporary file exists, with the tree as it was; refused
after, with the temporary file, free before, made and removed again; or done, with the temporary
file renamed over the target. -/
theorem writeAtomic_cases (h : t.writeAtomic p data now fault = (t', r)) :
    (t' = t ∧ r.isSome) ∨
    ∃ k t₁, t.find? (tempPath p k) = none ∧ t.putBytes (tempPath p k) data now = .ok t₁ ∧
      ((r.isSome ∧ t' = t₁.remove (tempPath p k)) ∨
        (r = none ∧ ∃ t₂, t₁.rename (tempPath p k) p = .ok t₂ ∧ t' = t₂.remove (tempPath p k))) := by
  unfold FileTree.writeAtomic at h
  split at h
  · cases h
    exact .inl ⟨rfl, rfl⟩
  · rename_i tmp htmp
    obtain ⟨hfree, k, rfl⟩ := freeTemp_spec htmp
    split at h
    · cases h
      exact .inl ⟨rfl, rfl⟩
    · split at h
      · cases h
        exact .inl ⟨rfl, rfl⟩
      · rename_i t₁ h₁
        cases h
        exact .inr ⟨k, t₁, hfree, h₁, .inl ⟨rfl, rfl⟩⟩
    · split at h
      · cases h
        exact .inl ⟨rfl, rfl⟩
      · rename_i t₁ h₁
        split at h
        · cases h
          exact .inr ⟨k, t₁, hfree, h₁, .inl ⟨rfl, rfl⟩⟩
        · rename_i t₂ h₂
          cases h
          exact .inr ⟨k, t₁, hfree, h₁, .inr ⟨rfl, t₂, h₂, rfl⟩⟩

/-- A temporary file made and removed again leaves the tree showing what it showed. -/
theorem find?_made_removed (ht : t.WellFormed) {tmp : Path} {t₁ : FileTree} (hfree : t.find? tmp = none)
    (h₁ : t.putBytes tmp data now = .ok t₁) (q : Path) : (t₁.remove tmp).find? q = t.find? q := by
  cases hu : under tmp q
  · rw [find?_remove_of_not_under hu]
    apply find?_putBytes_of_ne hfree h₁
    rintro rfl
    rw [under_self] at hu
    cases hu
  · -- below the temporary path there was nothing, and there is nothing now
    have hq : q ≠ [] := by
      rintro rfl
      obtain ⟨r, hr⟩ := under_iff.1 hu
      rw [(List.append_eq_nil_iff.1 hr).1] at hfree
      simp [find?_nil] at hfree
    rw [find?_remove_of_under hu hq, ht.find?_of_under_none hfree hu]

/-- **A refused write shows nothing new**: every path shows what it showed. -/
theorem writeAtomic_failed (ht : t.WellFormed) (h : t.writeAtomic p data now fault = (t', r))
    (hr : r.isSome = true) (q : Path) : t'.find? q = t.find? q := by
  rcases writeAtomic_cases h with ⟨rfl, -⟩ | ⟨k, t₁, hfree, h₁, ⟨-, rfl⟩ | ⟨rfl, -⟩⟩
  · rfl
  · exact find?_made_removed ht hfree h₁ q
  · cases hr

/-- A write changes nothing outside its target: the temporary file is gone again. -/
theorem writeAtomic_frame (ht : t.WellFormed) (hp : p ≠ []) (h : t.writeAtomic p data now fault = (t', r))
    (hq : under p q = false) : t'.find? q = t.find? q := by
  rcases writeAtomic_cases h with ⟨rfl, -⟩ | ⟨k, t₁, hfree, h₁, ⟨-, rfl⟩ | ⟨-, t₂, h₂, rfl⟩⟩
  · rfl
  · exact find?_made_removed ht hfree h₁ q
  · cases hu : under (tempPath p k) q
    · rw [find?_remove_of_not_under hu, find?_rename_of_not_under h₂ hu hq]
      apply find?_putBytes_of_ne hfree h₁
      rintro rfl
      rw [under_self] at hu
      cases hu
    · have hmade := find?_made_removed ht hfree h₁ q
      have hq0 : q ≠ [] := by
        rintro rfl
        have := length_le_of_under hu
        rw [tempPath_length hp] at this
        exact hp (List.length_eq_zero_iff.1 (by simpa using this))
      rw [find?_remove_of_under hu hq0] at hmade ⊢
      exact hmade

/-- A write keeps the tree well formed and its contents, and changes nothing outside its
target. -/
theorem writeAtomic_confined (ht : t.WellFormed) (hp : p ≠ []) (h : t.writeAtomic p data now fault = (t', r)) :
    Confined p t t' := by
  refine ⟨?_, ?_, fun q hq => writeAtomic_frame ht hp h hq⟩
  · rcases writeAtomic_cases h with ⟨rfl, -⟩ | ⟨k, t₁, hfree, h₁, ⟨-, rfl⟩ | ⟨-, t₂, h₂, rfl⟩⟩
    · exact ht
    · exact (ht.putBytes hfree h₁).remove _
    · exact ((ht.putBytes hfree h₁).rename (find?_putBytes_self hfree h₁) h₂).remove _
  · rcases writeAtomic_cases h with ⟨rfl, -⟩ | ⟨k, t₁, hfree, h₁, ⟨-, rfl⟩ | ⟨-, t₂, h₂, rfl⟩⟩
    · exact .refl _
    · exact (keepsContents_putBytes hfree h₁).trans (keepsContents_remove _ _)
    · exact ((keepsContents_putBytes hfree h₁).trans (.of_eq (rename_contents h₂) (rename_nextId h₂))).trans
        (keepsContents_remove _ _)

/-- **A write that succeeds leaves its target a file of the data**, under directories. -/
theorem writeAtomic_written (ht : t.WellFormed) (hp : p ≠ []) (h : t.writeAtomic p data now fault = (t', r))
    (hr : r = none) : t'.bytesAt p = .ok data := by
  rcases writeAtomic_cases h with ⟨rfl, hs⟩ | ⟨k, t₁, hfree, h₁, ⟨hs, rfl⟩ | ⟨-, t₂, h₂, rfl⟩⟩
  · rw [hr] at hs
    cases hs
  · rw [hr] at hs
    cases hs
  · have htmp0 : tempPath p k ≠ [] := by
      intro h0
      rw [h0, find?_nil] at hfree
      cases hfree
    refine bytesAt_eq_ok_iff.2 ⟨?_, t.nextId, now, ?_, ?_⟩
    · -- the ancestors of the target are those of the temporary file, which was made
      have hpp : t.parentProblem p = none :=
        (parentProblem_tempPath hp k).symm.trans (putBytes_ok_of_find?_none h₁ hfree).1
      rw [← hpp]
      apply parentProblem_congr
      intro i hi
      apply writeAtomic_frame ht hp h
      cases hu : under p (p.take i)
      · rfl
      · have := length_le_of_under hu
        simp only [List.length_take] at this
        omega
    · rw [find?_remove_of_not_under (under_tempPath hp k).2, find?_rename_target h₂ htmp0 hp,
        find?_putBytes_self hfree h₁]
    · simp only [content, remove_contents, rename_contents h₂]
      exact content_putBytes_self hfree h₁

end Write

/-! ### Backups -/

namespace Store

variable {s : Store}

theorem path_ne_nil (s : Store) : s.path ≠ [] := by simp [path]

/-- The backup directory sits beside the state file, so it has the same ancestors. -/
theorem parentProblem_backupDir (s : Store) (t : FileTree) :
    t.parentProblem s.backupDir = t.parentProblem s.path := by
  refine parentProblem_eq_of_take (by simp [backupDir, path]) fun i hi => ?_
  simp only [path, List.length_append, List.length_singleton] at hi
  rw [path, backupDir, List.take_append_of_le_length (by omega), List.take_append_of_le_length (by omega)]

/-- The ancestors of the state file lie outside the backups. -/
theorem under_backupDir_take (s : Store) {i : Nat} (hi : i < s.path.length) :
    under s.backupDir (s.path.take i) = false := by
  cases hu : under s.backupDir (s.path.take i)
  · rfl
  · have := length_le_of_under hu
    simp only [backupDir, path, List.length_append, List.length_singleton, List.length_take] at this hi
    omega

/-- The temporary files of the state file lie outside the backups: their names start with a
dot. -/
theorem under_backupDir_tempPath (s : Store) (n : Nat) : under s.backupDir (tempPath s.path n) = false := by
  cases hu : under s.backupDir (tempPath s.path n)
  · rfl
  · have hlen : (tempPath s.path n).length = s.backupDir.length := by
      rw [tempPath_length s.path_ne_nil]
      simp [backupDir, path]
    have heq := congrArg (fun q : Path => (q.getLastD "").toList.head?)
      ((under_iff.1 hu).eq_of_length hlen.symm)
    simp [backupDir, tempPath, path, Path.parent, Path.base, String.toList_append] at heq

/-- A prune removes nothing when backups are unlimited, and otherwise the first names of the
listing beyond the limit. -/
theorem prune_cases {t' : FileTree} (h : s.prune t = .ok t') :
    (s.options.maxBackups ≤ 0 ∧ t' = t) ∨
    ∃ names, s.backupNames t = .ok names ∧ 0 < s.options.maxBackups ∧
      t' = (names.take (names.length - s.options.maxBackups.toNat)).foldl
        (fun t n => t.remove (s.backupDir ++ [n])) t := by
  unfold prune at h
  split at h
  · rename_i hmax
    cases h
    exact .inl ⟨hmax, rfl⟩
  · rename_i hmax
    cases hb : s.backupNames t with
    | error e =>
      rw [hb] at h
      cases h
    | ok names =>
      rw [hb] at h
      cases h
      exact .inr ⟨names, rfl, by omega, rfl⟩

/-- A prune removes backups only: it changes nothing outside the backup directory. -/
theorem prune_confined (ht : t.WellFormed) {t' : FileTree} (h : s.prune t = .ok t') :
    Confined s.backupDir t t' := by
  rcases prune_cases h with ⟨-, rfl⟩ | ⟨names, -, -, rfl⟩
  · exact .refl ht
  · exact foldl_remove_confined _ _ ht

variable {now : Instant} {n : Nat} {fault : Option WriteFault}

/-- A backup either changes nothing, or copies a readable state file into a backup directory it
made, changing nothing outside that directory from there on. -/
theorem backup_cases (ht : t.WellFormed) :
    (s.backup t now n fault).1 = t ∨
    ∃ data t₁, t.bytesAt s.path = .ok data ∧ t.mkdirAll s.backupDir now = .ok t₁ ∧
      Confined s.backupDir t₁ (s.backup t now n fault).1 := by
  unfold backup
  split
  · split <;> exact .inl rfl
  · rename_i data hdata
    split
    · exact .inl rfl
    · split
      · exact .inl rfl
      · rename_i t₁ h₁
        refine .inr ⟨data, t₁, hdata, h₁, ?_⟩
        have hwf₁ := ht.mkdirAll h₁
        have hp : s.backupDir ++ [backupName now] ≠ [] := by simp
        split
        · rename_i t₂ e h₂
          exact (writeAtomic_confined hwf₁ hp h₂).widen _
        · rename_i t₂ h₂
          have c₂ := (writeAtomic_confined hwf₁ hp h₂).widen _
          split
          · exact c₂
          · rename_i t₃ h₃
            exact c₂.trans (prune_confined c₂.wellFormed h₃)

/-- **A backup changes nothing outside the backups.** -/
theorem backup_confined (ht : t.WellFormed) : Confined s.backupDir t (s.backup t now n fault).1 := by
  rcases backup_cases ht with hsame | ⟨data, t₁, hdata, h₁, hc⟩
  · rw [hsame]
    exact .refl ht
  · have hpp := (parentProblem_backupDir s t).trans (bytesAt_eq_ok_iff.1 hdata).1
    exact (mkdirAll_confined ht hpp h₁).trans hc

/-- A backup leaves the state file alone, even one named as the backup directory: no directory
is made over it. -/
theorem backup_find?_path (ht : t.WellFormed) : (s.backup t now n fault).1.find? s.path = t.find? s.path := by
  rcases backup_cases ht with hsame | ⟨data, t₁, hdata, h₁, hc⟩
  · rw [hsame]
  · have hout : under s.backupDir s.path = false := by
      cases hu : under s.backupDir s.path
      · rfl
      · have heq : s.backupDir = s.path := (under_iff.1 hu).eq_of_length (by simp [backupDir, path])
        obtain ⟨-, id, m, hf, -⟩ := bytesAt_eq_ok_iff.1 hdata
        rw [← heq] at hf
        exact absurd h₁ (mkdirAll_ne_file hf)
    exact (backup_confined ht).frame _ hout

end Store

/-! ### Saves -/

namespace Store

/-- What a save from `t`, ending in the tree and result `res`, promises for the state `st`:
the tree stays well formed; a refused save wraps the failure to write and leaves the state file
and everything outside the backups as they were; a save that succeeds leaves the state file
holding the state's text, and everything else outside the backups as it was; no temporary file
of the state file is left; and a state that has no text touches nothing. -/
structure SaveOutcome (s : Store) (st : AppState) (t : FileTree)
    (res : FileTree × Except StoreError Unit) : Prop where
  wellFormed : res.1.WellFormed
  failed : ∀ e, res.2 = .error e →
    (∃ m, e = .failedToWrite m) ∧ res.1.bytesAt s.path = t.bytesAt s.path ∧
      ∀ q, under s.backupDir q = false → res.1.find? q = t.find? q
  written : res.2 = .ok () →
    ∃ text, encodeStateFile st = .ok text ∧ res.1.bytesAt s.path = .ok (Utf8.bytesOf text) ∧
      ∀ q, under s.path q = false → under s.backupDir q = false → res.1.find? q = t.find? q
  noTemp : ∀ n, res.1.find? (tempPath s.path n) = t.find? (tempPath s.path n)
  unencodable : (encodeStateFile st).isOk = false → res.1 = t

variable {s : Store} {faults : SaveFaults} {now : Instant} {st : AppState}

/-- A save's every outcome, refused call by refused call. -/
theorem saveWith_outcome (ht : t.WellFormed) : SaveOutcome s st t (s.saveWith faults t now st) := by
  unfold saveWith
  split
  · rename_i e henc
    exact ⟨ht, fun _ he => ⟨⟨_, (Except.error.inj he).symm⟩, rfl, fun _ _ => rfl⟩, nofun,
      fun _ => rfl, fun _ => rfl⟩
  · rename_i text henc
    have hencOk : (encodeStateFile st).isOk = true := by rw [henc]; rfl
    have cb : Confined s.backupDir t (s.backup t now st.accounts.length faults.backup).1 :=
      backup_confined ht
    have hbpath : (s.backup t now st.accounts.length faults.backup).1.find? s.path = t.find? s.path :=
      backup_find?_path ht
    dsimp only
    generalize (s.backup t now st.accounts.length faults.backup).1 = t₁ at cb hbpath
    -- the backup left the state file and its ancestors as they were
    have hstate : ∀ i ≤ s.path.length, t₁.find? (s.path.take i) = t.find? (s.path.take i) := by
      intro i hi
      rcases Nat.lt_or_eq_of_le hi with hlt | rfl
      · exact cb.frame _ (under_backupDir_take s hlt)
      · rw [List.take_length]
        exact hbpath
    split
    · -- the write of the state file was refused: it shows nothing new
      rename_i t₂ e h₂
      have hall := writeAtomic_failed cb.wellFormed h₂ rfl
      have hk := cb.keeps.trans (writeAtomic_confined cb.wellFormed s.path_ne_nil h₂).keeps
      refine ⟨writeAtomic_confined cb.wellFormed s.path_ne_nil h₂ |>.wellFormed, fun e' he => ?_, nofun,
        fun n => (hall _).trans (cb.frame _ (under_backupDir_tempPath s n)), ?_⟩
      · cases he
        exact ⟨⟨_, rfl⟩, ht.bytesAt_eq hk fun i hi => (hall _).trans (hstate i hi),
          fun q hq => (hall q).trans (cb.frame q hq)⟩
      · intro h
        rw [hencOk] at h
        cases h
    · -- the write was done: the state file holds the text, nothing else outside the backups moved
      rename_i t₂ h₂
      have c₂ := writeAtomic_confined cb.wellFormed s.path_ne_nil h₂
      refine ⟨c₂.wellFormed, nofun, fun _ => ⟨text, henc, writeAtomic_written cb.wellFormed s.path_ne_nil h₂ rfl,
        fun q hq hb => (c₂.frame q hq).trans (cb.frame q hb)⟩, fun n => ?_, ?_⟩
      · exact (c₂.frame _ (under_tempPath s.path_ne_nil n).1).trans (cb.frame _ (under_backupDir_tempPath s n))
      · intro h
        rw [hencOk] at h
        cases h

/-- An update whose load or callback fails writes nothing, and fails. -/
theorem updateWith_refused {f : AppState → Except StoreError AppState}
    (h : ∀ st₀, s.load t = .ok st₀ → (f (st₀.getD {})).isOk = false) :
    (s.updateWith faults t now f).1 = t ∧ (s.updateWith faults t now f).2.isOk = false := by
  unfold updateWith
  split
  · exact ⟨rfl, rfl⟩
  · rename_i st₀ hload
    have hf := h st₀ hload
    split
    · exact ⟨rfl, rfl⟩
    · rename_i st' hst'
      rw [hst'] at hf
      cases hf

/-- **Saves are all or nothing.** Whatever calls of a save are refused, the state file either
keeps its old content (or stays absent) and the save fails to write, or it holds exactly the
state's text and the save succeeds; in both cases everything outside the backups but the state
file shows what it showed, so no temporary file is left behind, and a state with no text touches
nothing. An update whose load or callback fails writes nothing. -/
theorem save_all_or_nothing (s : Store) (faults : SaveFaults) (now : Instant) (ht : t.WellFormed) :
    (∀ st, SaveOutcome s st t (s.saveWith faults t now st)) ∧
    ∀ f : AppState → Except StoreError AppState,
      (∀ st₀, s.load t = .ok st₀ → (f (st₀.getD {})).isOk = false) →
      (s.updateWith faults t now f).1 = t ∧ (s.updateWith faults t now f).2.isOk = false :=
  ⟨fun _ => saveWith_outcome ht, fun _ h => updateWith_refused h⟩

theorem save_all_or_nothing_from_empty :
    ({} : FileTree).WellFormed ∧
    (∀ st, SaveOutcome { dir := ["w"] } st {} (Store.saveWith { dir := ["w"] } {} {} .zero st)) ∧
    ∀ f : AppState → Except StoreError AppState,
      (∀ st₀, Store.load { dir := ["w"] } {} = .ok st₀ → (f (st₀.getD {})).isOk = false) →
      (Store.updateWith { dir := ["w"] } {} {} .zero f).1 = {} ∧
        (Store.updateWith { dir := ["w"] } {} {} .zero f).2.isOk = false :=
  ⟨wellFormed_empty, save_all_or_nothing { dir := ["w"] } {} .zero wellFormed_empty⟩

end Store

end QuotaWatch
