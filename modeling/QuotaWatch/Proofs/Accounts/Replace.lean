import Mathlib.Data.List.Nodup
import QuotaWatch.Proofs.State
/-!
**Replacing the account list.**

Accounts are put in order of number by stable insertion and keep the snapshot of the first old
account of their email. A settled state (`AppState.Settled`: trimmed, checked, in order, active
email unset or naming an account) is a fixed point of replacing its accounts by their configs.

Main definitions:

* `sortByOrdinal` — the accounts put in order of number by stable insertion;
* `AppState.carried` — the account of a config, with the snapshot of the first old account of
  its email;
* `AppState.keepActive` — the state with its active email dropped when it names no account;
* `AppState.Settled` — a state whose configs are trimmed, checked and in order, with its active
  email unset or naming an account.

Main results:

* `validateConfigs_ok` — a list that passes the checks has non-empty emails, and no email and no
  number twice;
* `sortByOrdinal_perm_sorted`, `sortByOrdinal_of_sorted` — insertion sorts, and is stable;
* `applyConfigs_error_iff`, `applyConfigs_ok_spec` — a refused replacement and a done one;
* `applyConfigs_replaces_accounts` — **replacing the account list**;
* `stale_active_email_dropped` — an active email that names no account is dropped.
-/

namespace QuotaWatch

/-! ### The checks -/

/-- No element found with a repeated key means the keys are distinct. -/
theorem nodup_of_firstRepeated {α β : Type} [BEq β] [LawfulBEq β] {key : α → β} {xs : List α}
    (h : firstRepeated key xs = none) : (xs.map key).Nodup := by
  rw [List.nodup_iff_count_le_one]
  intro k
  by_cases hk : k ∈ xs.map key
  · obtain ⟨x, hx, rfl⟩ := List.mem_map.1 hk
    have hfew := List.find?_eq_none.1 h x hx
    rw [List.count_eq_countP, List.countP_map, List.countP_eq_length_filter]
    change (xs.filter fun y => key y == key x).length ≤ 1
    simp only [decide_eq_true_eq] at hfew
    omega
  · rw [List.count_eq_zero_of_not_mem hk]
    exact Nat.zero_le 1

/-- **A list that passes the checks** has non-empty emails, and no email and no number twice. -/
theorem validateConfigs_ok {cs : List AccountConfig} (h : validateConfigs cs = .ok ()) :
    (∀ c ∈ cs, c.email ≠ "") ∧ (cs.map (·.email)).Nodup ∧ (cs.map (·.ordinal)).Nodup := by
  unfold validateConfigs at h
  dsimp only at h
  split at h
  · cases h
  rename_i hp
  split at h
  · cases h
  rename_i he
  split at h
  · cases h
  rename_i ho
  refine ⟨fun c hc hce => ?_, nodup_of_firstRepeated he, nodup_of_firstRepeated ho⟩
  -- an empty email is a problem of its config, and the list of problems is empty
  obtain ⟨i, hi⟩ := List.mem_iff_getElem?.1 hc
  have hmem : (c, i) ∈ cs.zipIdx := List.mem_zipIdx_iff_getElem?.2 hi
  have hnil : ∀ (x : AccountConfig) (j : Nat), (x, j) ∈ cs.zipIdx → x.problems j = [] := by
    simpa using hp
  have := hnil c i hmem
  simp [AccountConfig.problems, hce] at this

/-! ### Insertion by number -/

section Insertion

variable {a : Account} {l : List Account}

theorem insertByOrdinal_perm : (insertByOrdinal a l).Perm (a :: l) := by
  induction l with
  | nil => exact .refl _
  | cons b l ih =>
    unfold insertByOrdinal
    split
    · exact .refl _
    · exact (ih.cons b).trans (.swap a b l)

theorem insertByOrdinal_sorted (hs : l.Pairwise fun x y => x.ordinal ≤ y.ordinal) :
    (insertByOrdinal a l).Pairwise fun x y => x.ordinal ≤ y.ordinal := by
  induction l with
  | nil => exact List.pairwise_singleton _ _
  | cons b l ih =>
    rw [List.pairwise_cons] at hs
    unfold insertByOrdinal
    split
    · -- `a` goes first: it is below `b`, and so below everything after `b`
      rename_i hab
      refine List.pairwise_cons.2 ⟨fun e he => ?_, List.pairwise_cons.2 hs⟩
      rcases List.mem_cons.1 he with rfl | he
      · exact Int.le_of_lt hab
      · exact Int.le_trans (Int.le_of_lt hab) (hs.1 e he)
    · rename_i hab
      refine List.pairwise_cons.2 ⟨fun e he => ?_, ih hs.2⟩
      rcases List.mem_cons.1 (insertByOrdinal_perm.mem_iff.1 he) with rfl | he
      · exact Int.le_of_not_gt hab
      · exact hs.1 e he

/-- An account with a number not below any in the list goes last. -/
theorem insertByOrdinal_of_le (h : ∀ b ∈ l, b.ordinal ≤ a.ordinal) : insertByOrdinal a l = l ++ [a] := by
  induction l with
  | nil => rfl
  | cons b l ih =>
    rw [insertByOrdinal, if_neg (Int.not_lt.2 (h b List.mem_cons_self)),
      ih fun c hc => h c (List.mem_cons_of_mem b hc), List.cons_append]

end Insertion

/-- Accounts put in order of number by inserting them one after another. -/
def sortByOrdinal (as : List Account) : List Account := as.foldl (fun acc a => insertByOrdinal a acc) []

theorem foldl_insertByOrdinal (as acc : List Account) :
    (as.foldl (fun acc a => insertByOrdinal a acc) acc).Perm (acc ++ as) ∧
      ((acc.Pairwise fun x y => x.ordinal ≤ y.ordinal) →
        (as.foldl (fun acc a => insertByOrdinal a acc) acc).Pairwise fun x y => x.ordinal ≤ y.ordinal) := by
  induction as generalizing acc with
  | nil => exact ⟨by simp, id⟩
  | cons a as ih =>
    obtain ⟨hperm, hsorted⟩ := ih (insertByOrdinal a acc)
    refine ⟨hperm.trans ?_, fun hs => hsorted (insertByOrdinal_sorted hs)⟩
    exact (insertByOrdinal_perm.append_right as).trans List.perm_middle.symm

/-- **Insertion sorts**: the accounts, each once, in order of number. -/
theorem sortByOrdinal_perm_sorted (as : List Account) :
    (sortByOrdinal as).Perm as ∧ (sortByOrdinal as).Pairwise fun x y => x.ordinal ≤ y.ordinal :=
  ⟨(foldl_insertByOrdinal as []).1, (foldl_insertByOrdinal as []).2 List.Pairwise.nil⟩

/-- **Insertion is stable**: a list already in order of number stays as it is. -/
theorem sortByOrdinal_of_sorted {as : List Account} (h : as.Pairwise fun x y => x.ordinal ≤ y.ordinal) :
    sortByOrdinal as = as := by
  suffices ∀ acc : List Account, (∀ b ∈ acc, ∀ c ∈ as, b.ordinal ≤ c.ordinal) →
      as.foldl (fun acc a => insertByOrdinal a acc) acc = acc ++ as from
    (this [] fun _ hb => absurd hb List.not_mem_nil).trans (List.nil_append as)
  induction as with
  | nil => simp
  | cons a as ih =>
    intro acc hacc
    rw [List.pairwise_cons] at h
    -- `a` goes after the accounts inserted before it, and is below those after it
    rw [List.foldl_cons, insertByOrdinal_of_le fun b hb => hacc b hb a List.mem_cons_self,
      ih h.2 (acc ++ [a]) fun b hb c hc => ?_, List.append_assoc, List.singleton_append]
    rcases List.mem_append.1 hb with hb | hb
    · exact hacc b hb c (List.mem_cons_of_mem a hc)
    · rw [List.mem_singleton.1 hb]
      exact h.1 c hc

/-! ### The three steps -/

namespace AppState

/-- The account a config becomes: its fields, and the snapshot of the first account of its
email. -/
def carried (s : AppState) (c : AccountConfig) : Account :=
  { email := c.email, displayName := c.displayName, ordinal := c.ordinal,
    lastSnapshot := (s.account? c.email).bind (·.lastSnapshot),
    lastUpdated := (s.account? c.email).bind (·.lastUpdated) }

/-- The state with its active email dropped when it names no account. -/
def keepActive (s : AppState) : AppState := if (s.account? s.active).isSome then s else s.setActive ""

/-- What a replacement does, step by step. -/
theorem applyConfigs_eq (s : AppState) (cs : List AccountConfig) :
    s.applyConfigs cs = (validateConfigs (cs.map AccountConfig.normalize)).map fun _ =>
      keepActive { s with accounts := sortByOrdinal ((cs.map AccountConfig.normalize).map s.carried) } := by
  unfold applyConfigs keepActive
  dsimp only
  cases validateConfigs (cs.map AccountConfig.normalize) with
  | error e => rfl
  | ok u => exact (apply_ite Except.ok _ _ _).symm

/-- The active email after `keepActive`, when no account has the empty email. -/
theorem keepActive_activeEmail (t : AppState) (hne : ∀ a ∈ t.accounts, a.email ≠ "") :
    keepActive t = { t with activeEmail :=
      if t.activeEmail ∈ t.accounts.map (fun a => some a.email) then t.activeEmail else none } := by
  unfold keepActive account? active
  cases hact : t.activeEmail with
  | none =>
    -- the empty email names no account
    have : t.accounts.find? (·.email == "") = none :=
      List.find?_eq_none.2 fun a ha => by simpa using hne a ha
    simp [this, setActive]
  | some e =>
    by_cases he : ∃ a ∈ t.accounts, a.email = e
    · have hfind : (t.accounts.find? (·.email == e)).isSome := by
        simpa [List.find?_isSome] using he
      simp only [Option.getD_some, hfind, if_true, List.mem_map, Option.some.injEq]
      rw [if_pos (by simpa using he)]
      cases t
      simp_all
    · have hfind : t.accounts.find? (·.email == e) = none :=
        List.find?_eq_none.2 fun a ha h => he ⟨a, ha, by simpa using h⟩
      simp only [Option.getD_some, hfind, Option.isSome_none, Bool.false_eq_true, if_false, setActive,
        if_pos, List.mem_map, Option.some.injEq]
      rw [if_neg (by simpa using he)]

/-- A state that its own configs leave as it is: its accounts are trimmed, pass the checks and are
in order of number, and its active email is unset or names one of them. -/
structure Settled (s : AppState) : Prop where
  trimmed : s.configs.map AccountConfig.normalize = s.configs
  valid : validateConfigs s.configs = .ok ()
  sorted : s.accounts.Pairwise fun a b => a.ordinal ≤ b.ordinal
  active : ∀ e, s.activeEmail = some e → ∃ a ∈ s.accounts, a.email = e

/-- Each account of a state whose emails are distinct finds itself as the first of its email. -/
theorem carried_config {s : AppState} (hnd : (s.accounts.map (·.email)).Nodup) {a : Account}
    (ha : a ∈ s.accounts) : s.carried ⟨a.email, a.displayName, a.ordinal⟩ = a := by
  have hfind : s.account? a.email = some a := by
    have hsome : (s.accounts.find? (·.email == a.email)).isSome := List.find?_isSome.2 ⟨a, ha, by simp⟩
    obtain ⟨b, hb⟩ := Option.isSome_iff_exists.1 hsome
    obtain ⟨hbmem, hbe⟩ := account?_eq_some hb
    exact hb.trans (congrArg some (List.inj_on_of_nodup_map hnd hbmem ha hbe))
  simp [carried, hfind]

end AppState

open AppState

/-- A list whose trimmed form fails the checks is refused with the checks' error, and only
then. -/
theorem applyConfigs_error_iff (s : AppState) (cs : List AccountConfig) (e : ConfigError) :
    s.applyConfigs cs = .error e ↔ validateConfigs (cs.map AccountConfig.normalize) = .error e := by
  rw [applyConfigs_eq]
  cases validateConfigs (cs.map AccountConfig.normalize) <;> simp [Except.map]

/-- A list that passes the checks replaces the accounts and perhaps the active email, and nothing
else: the new configs are the trimmed list in strictly increasing order of number, and each
account carries what the first old account of its email had. -/
theorem applyConfigs_ok_spec (s : AppState) (cs : List AccountConfig)
    (hv : validateConfigs (cs.map AccountConfig.normalize) = .ok ()) :
    ∃ s', s.applyConfigs cs = .ok s' ∧
      s' = { s with accounts := s'.accounts, activeEmail :=
        if s.activeEmail ∈ s'.accounts.map (fun a => some a.email) then s.activeEmail else none } ∧
      s'.configs.Perm (cs.map AccountConfig.normalize) ∧
      s'.configs.Pairwise (fun a b => a.ordinal < b.ordinal) ∧
      ∀ a ∈ s'.accounts, a.lastSnapshot = (s.account? a.email).bind (·.lastSnapshot) ∧
        a.lastUpdated = (s.account? a.email).bind (·.lastUpdated) := by
  obtain ⟨hne, -, hords⟩ := validateConfigs_ok hv
  set ncs := cs.map AccountConfig.normalize
  obtain ⟨hperm, hsorted⟩ := sortByOrdinal_perm_sorted (ncs.map s.carried)
  -- the new accounts are the configs, carried, in order of number
  have hconf : (ncs.map s.carried).map (fun a => (⟨a.email, a.displayName, a.ordinal⟩ : AccountConfig)) = ncs := by
    simp [Function.comp_def, carried]
  have hmem : ∀ a ∈ sortByOrdinal (ncs.map s.carried), ∃ c ∈ ncs, s.carried c = a := fun a ha =>
    List.mem_map.1 (hperm.mem_iff.1 ha)
  have hne' : ∀ a ∈ sortByOrdinal (ncs.map s.carried), a.email ≠ "" := by
    intro a ha
    obtain ⟨c, hc, rfl⟩ := hmem a ha
    exact hne c hc
  have hkeep := keepActive_activeEmail { s with accounts := sortByOrdinal (ncs.map s.carried) } hne'
  rw [applyConfigs_eq, hv]
  refine ⟨keepActive { s with accounts := sortByOrdinal (ncs.map s.carried) }, rfl, ?_, ?_, ?_, ?_⟩
  · rw [hkeep]
  · rw [hkeep, configs]
    exact (hperm.map _).trans (List.Perm.of_eq hconf)
  · -- numbers are distinct, so the order of number is strict
    rw [hkeep, configs, List.pairwise_map]
    have hnd : ((sortByOrdinal (ncs.map s.carried)).map (·.ordinal)).Nodup := by
      refine (hperm.map _).nodup_iff.2 ?_
      simpa [Function.comp_def, carried] using hords
    exact (hsorted.and (List.pairwise_map.1 hnd)).imp fun h => Int.lt_iff_le_and_ne.2 h
  · intro a ha
    rw [hkeep] at ha
    obtain ⟨c, -, rfl⟩ := hmem a ha
    exact ⟨rfl, rfl⟩

/-- Replacing a settled state's accounts by their own configs gives the same state. -/
theorem applyConfigs_configs_of_settled {s : AppState} (hs : s.Settled) :
    s.applyConfigs s.configs = .ok s := by
  obtain ⟨hne, hemails, -⟩ := validateConfigs_ok hs.valid
  have hnd : (s.accounts.map (·.email)).Nodup := by simpa [configs, Function.comp_def] using hemails
  have hne' : ∀ a ∈ s.accounts, a.email ≠ "" := fun a ha =>
    hne _ (List.mem_map.2 ⟨a, ha, rfl⟩)
  -- each config carries its own account back
  have hcarry : s.configs.map s.carried = s.accounts := by
    rw [configs, List.map_map]
    conv_rhs => rw [← List.map_id s.accounts]
    exact List.map_congr_left fun a ha => carried_config hnd ha
  rw [applyConfigs_eq, hs.trimmed, hs.valid, Except.map, hcarry, sortByOrdinal_of_sorted hs.sorted]
  congr 1
  rw [keepActive_activeEmail _ hne']
  cases s with
  | mk activeEmail lastRefresh ledger forcedRefresh dailyHello reminders accounts =>
    cases activeEmail with
    | none => simp
    | some e =>
      obtain ⟨a, ha, rfl⟩ := hs.active e rfl
      simp only [List.mem_map, Option.some.injEq]
      rw [if_pos ⟨a, ha, rfl⟩]

/-- **Replacing the account list.** A list of configs whose trimmed form fails the checks is
refused with the checks' error, and the state stays as it was. Otherwise the new state differs
from the old one only in its accounts and active email: its configs are the trimmed list in
strictly increasing order of number, each account carries the snapshot and update time of the
first old account of its email (none without one), and the active email stays when it names a new
account and is dropped otherwise. Replacing a settled state's accounts by their own configs gives
the same state. -/
theorem applyConfigs_replaces_accounts (s : AppState) (cs : List AccountConfig) :
    (∀ e, s.applyConfigs cs = .error e ↔ validateConfigs (cs.map AccountConfig.normalize) = .error e) ∧
      (validateConfigs (cs.map AccountConfig.normalize) = .ok () →
        ∃ s', s.applyConfigs cs = .ok s' ∧
          s' = { s with accounts := s'.accounts, activeEmail :=
            if s.activeEmail ∈ s'.accounts.map (fun a => some a.email) then s.activeEmail else none } ∧
          s'.configs.Perm (cs.map AccountConfig.normalize) ∧
          s'.configs.Pairwise (fun a b => a.ordinal < b.ordinal) ∧
          ∀ a ∈ s'.accounts, a.lastSnapshot = (s.account? a.email).bind (·.lastSnapshot) ∧
            a.lastUpdated = (s.account? a.email).bind (·.lastUpdated)) ∧
      (s.Settled → s.applyConfigs s.configs = .ok s) :=
  ⟨applyConfigs_error_iff s cs, applyConfigs_ok_spec s cs, applyConfigs_configs_of_settled⟩

/-- **An active email that names no account is dropped**, even when the accounts are replaced by
their own configs: one trimmed, valid account and an active email naming another. -/
theorem stale_active_email_dropped :
    (({ accounts := [{ email := "a@x.com", ordinal := 1 }], activeEmail := some "b@x.com" } :
        AppState).configs.map AccountConfig.normalize =
      ({ accounts := [{ email := "a@x.com", ordinal := 1 }] } : AppState).configs) ∧
      (validateConfigs [{ email := "a@x.com", ordinal := 1 }]).toBool = true ∧
      ((({ accounts := [{ email := "a@x.com", ordinal := 1 }], activeEmail := some "b@x.com" } :
        AppState).applyConfigs [{ email := "a@x.com", ordinal := 1 }]).toOption.map (·.activeEmail)) =
        some none := by
  decide +kernel

end QuotaWatch
