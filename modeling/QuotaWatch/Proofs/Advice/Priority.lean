import Mathlib.Data.List.Nodup
import QuotaWatch.Proofs.Advice.Ranking
/-!
**The priority order and the recommendation.**

The sticky account is taken out of the order by email, the empty email when nothing is sticky,
so an account with no email and a known status is then left out; the recommendation heads the
order exactly when the order lists it.

Main definitions:

* `Candidate.Outranks` — a candidate whose week resets first, or at the same moment with more
  remaining;
* `StatusKind.rank` — where a status puts an account: available, depleted, then unknown;
* `Thresholds.stickyAccount`, `Thresholds.group` — the account kept first, and the accounts of a
  status that the order ranks;
* `Thresholds.listed` — whether the priority order lists an account;
* `Thresholds.Precedes` — the order the priority order follows, as a relation.

Main results:

* `Thresholds.prioritize_eq` — the priority order in its four parts;
* `Thresholds.mem_prioritize` — it lists each account it lists once, and nothing else;
* `Thresholds.pairwise_prioritize` — it is ordered;
* `Thresholds.prioritize_ranked_order` — **the priority order ranks what it lists**;
* `Thresholds.recommend_cases` — the recommendation by cases;
* `Thresholds.recommend_heads_priority` — **the recommendation heads the priority order when the
  order lists it**.
-/

namespace QuotaWatch

open scoped List

/-! ### Ranking strictly ahead -/

/-- `a` ranks strictly ahead of `b`: its week resets first, or at the same moment with more
remaining. -/
def Candidate.Outranks (a b : Candidate) : Prop :=
  a.resetsAt.before b.resetsAt = true ∨
    b.resetsAt.before a.resetsAt = false ∧ b.remaining.less a.remaining = true

theorem Candidate.compare_eq_lt_iff_outranks (a b : Candidate) : a.compare b = .lt ↔ a.Outranks b := by
  unfold compare Outranks
  split_ifs <;> simp_all

/-- Where a status puts an account in the priority order: available, then depleted, then
unknown. -/
def StatusKind.rank : StatusKind → Nat
  | .available => 0
  | .depleted => 1
  | .unknown => 2

namespace Thresholds

variable (t : Thresholds)

/-! ### The parts of the order -/

/-- The accounts of one status, in the given order. -/
def ofStatus (accounts : List Account) (k : StatusKind) : List Account :=
  accounts.filter fun a => (t.status a).kind == k

/-- The account kept for stickiness: the first with the active email, when one is given and that
account is available. -/
def stickyAccount (accounts : List Account) (active : String) : Option Account :=
  if active = "" then none
  else (accounts.find? (·.email == active)).filter fun a => (t.status a).kind == .available

/-- The email taken out of the ranked groups: the sticky account's, or the empty one. -/
def stickyEmail (accounts : List Account) (active : String) : String :=
  ((t.stickyAccount accounts active).map (·.email)).getD ""

/-- The accounts of one status other than those with the sticky email, in the given order. -/
def group (accounts : List Account) (active : String) (k : StatusKind) : List Account :=
  (t.ofStatus accounts k).filter (·.email != t.stickyEmail accounts active)

theorem ofKind_candidates (accounts : List Account) (k : StatusKind) :
    ofKind (t.candidates accounts) k = (t.ofStatus accounts k).map t.candidate := by
  simp only [ofKind, candidates_eq, ofStatus, List.filter_map]
  rfl

theorem sticky_candidates (accounts : List Account) (active : String) :
    (findActive (t.candidates accounts) active).filter (·.status.kind == .available) =
      (t.stickyAccount accounts active).map t.candidate := by
  unfold findActive stickyAccount
  split
  · rfl
  · simp only [candidates_eq, List.find?_map, Option.filter_map]
    rfl

theorem ranked_map (l : List Account) : (ranked (l.map t.candidate)).map (·.account) = l.mergeSort t.rankLe := by
  have h := List.map_mergeSort (r := t.rankLe) (s := fun a b : Candidate => a.compare b != .gt)
    (f := t.candidate) (l := l) (fun _ _ _ _ => rfl)
  rw [ranked, ← h, List.map_map]
  exact List.map_id _

/-- **The priority order in its four parts.** -/
theorem prioritize_eq (accounts : List Account) (active : String) :
    t.prioritize accounts active =
      (t.stickyAccount accounts active).toList ++ (t.group accounts active .available).mergeSort t.rankLe ++
        (t.group accounts active .depleted).mergeSort t.rankLe ++ t.ofStatus accounts .unknown := by
  simp only [prioritize, sticky_candidates, ofKind_candidates, group, stickyEmail, List.filter_map,
    Option.map_map, List.map_map, Function.comp_def, candidate_account, ranked_map, Option.map_id', List.map_id']

/-! ### The recommendation -/

variable {t}

theorem mem_of_stickyAccount {accounts : List Account} {active : String} {s : Account}
    (h : t.stickyAccount accounts active = some s) :
    s ∈ accounts ∧ s.email = active ∧ (t.status s).kind = .available := by
  unfold stickyAccount at h
  split at h
  · cases h
  · obtain ⟨hfind, hkind⟩ := Option.filter_eq_some_iff.1 h
    have hmail := List.find?_some hfind
    exact ⟨List.mem_of_find?_eq_some hfind, by simpa using hmail, by simpa using hkind⟩

/-- **The recommendation by cases**: the sticky account; or else the first best available account;
or else the first best depleted one; or, with no account of known status, none. -/
theorem recommend_cases (accounts : List Account) (active : String) (hnd : accounts.Nodup) :
    (∃ s, t.stickyAccount accounts active = some s ∧
        t.recommend accounts active = ⟨some s, .stickiness, active⟩) ∨
    (t.stickyAccount accounts active = none ∧ ∃ m, t.FirstBest (t.ofStatus accounts .available) m ∧
        t.recommend accounts active = ⟨some m, .earliestWeeklyReset, active⟩) ∨
    (t.stickyAccount accounts active = none ∧ t.ofStatus accounts .available = [] ∧
      ∃ m, t.FirstBest (t.ofStatus accounts .depleted) m ∧
        t.recommend accounts active = ⟨some m, .allDepleted, active⟩) ∨
    (t.stickyAccount accounts active = none ∧ t.ofStatus accounts .available = [] ∧
        t.ofStatus accounts .depleted = [] ∧ t.recommend accounts active = ⟨none, .noData, active⟩) := by
  have hfirst : ∀ k c rest, t.ofStatus accounts k = c :: rest →
      ∃ m, (firstBest (t.candidate c) (rest.map t.candidate)).account = m ∧ t.FirstBest (c :: rest) m :=
    fun k c rest hk => by
      obtain ⟨m, hm, hfb⟩ := t.firstBest_eq c rest (hk ▸ hnd.filter _)
      exact ⟨m, by rw [hm, candidate_account], hfb⟩
  unfold recommend
  simp only [sticky_candidates, ofKind_candidates]
  cases hs : t.stickyAccount accounts active with
  | some s => exact .inl ⟨s, rfl, rfl⟩
  | none =>
    cases ha : t.ofStatus accounts .available with
    | cons c rest =>
      obtain ⟨m, hm, hfb⟩ := hfirst _ c rest ha
      exact .inr (.inl ⟨rfl, m, hfb, by simp [hm]⟩)
    | nil =>
      cases hd : t.ofStatus accounts .depleted with
      | cons c rest =>
        obtain ⟨m, hm, hfb⟩ := hfirst _ c rest hd
        exact .inr (.inr (.inl ⟨rfl, rfl, m, hfb, by simp [hm]⟩))
      | nil => exact .inr (.inr (.inr ⟨rfl, rfl, rfl, rfl⟩))

/-! ### What the order lists -/

variable (t) in
/-- Whether the priority order lists an account: while an account is sticky every account is
listed, and otherwise those with an email or of unknown status. -/
def listed (accounts : List Account) (active : String) (a : Account) : Bool :=
  (t.stickyAccount accounts active).isSome || a.email != "" || (t.status a).kind == .unknown

/-- With distinct emails, the sticky account is the only account with its email. -/
theorem eq_of_stickyAccount {accounts : List Account} {active : String} {s a : Account}
    (hdist : (accounts.map (·.email)).Nodup) (hs : t.stickyAccount accounts active = some s)
    (ha : a ∈ accounts) (hmail : a.email = s.email) : a = s :=
  List.inj_on_of_nodup_map hdist ha (mem_of_stickyAccount hs).1 hmail

theorem mem_ofStatus {accounts : List Account} {k : StatusKind} {a : Account} :
    a ∈ t.ofStatus accounts k ↔ a ∈ accounts ∧ (t.status a).kind = k := by
  simp [ofStatus]

theorem mem_group {accounts : List Account} {active : String} {k : StatusKind} {a : Account} :
    a ∈ t.group accounts active k ↔
      a ∈ accounts ∧ (t.status a).kind = k ∧ a.email ≠ t.stickyEmail accounts active := by
  simp only [group, List.mem_filter, mem_ofStatus, bne_iff_ne, and_assoc]

/-- **The priority order lists each account of the list that it lists, and nothing else.** -/
theorem mem_prioritize {accounts : List Account} {active : String} {a : Account}
    (hdist : (accounts.map (·.email)).Nodup) :
    a ∈ t.prioritize accounts active ↔ a ∈ accounts ∧ t.listed accounts active a = true := by
  rw [prioritize_eq]
  simp only [List.mem_append, Option.mem_toList, List.mem_mergeSort, mem_group, mem_ofStatus, or_assoc]
  cases hs : t.stickyAccount accounts active with
  | none =>
    -- nothing is sticky: the groups leave out exactly the accounts with the empty email
    cases hk : (t.status a).kind <;> simp [listed, stickyEmail, hs, hk]
  | some s =>
    obtain ⟨hsmem, -, hskind⟩ := mem_of_stickyAccount hs
    simp only [listed, hs, stickyEmail, Option.map_some, Option.getD_some, Option.isSome_some,
      Bool.true_or, and_true]
    constructor
    · rintro (h | ⟨ha, -⟩ | ⟨ha, -⟩ | ⟨ha, -⟩)
      · exact Option.some.inj h ▸ hsmem
      all_goals exact ha
    · intro ha
      by_cases hmail : a.email = s.email
      · exact .inl (congrArg some (eq_of_stickyAccount hdist hs ha hmail).symm)
      · cases hk : (t.status a).kind <;> simp [ha, hmail]

/-! ### The order -/

variable (t) in
/-- **The priority order**: the sticky account before every other; then by status, available
before depleted before unknown; within a status, one that ranks strictly ahead first, and of two
tied accounts the one given first. -/
def Precedes (accounts : List Account) (active : String) (a b : Account) : Prop :=
  t.stickyAccount accounts active ≠ some b ∧
    (t.stickyAccount accounts active = some a ∨
      (t.status a).kind.rank < (t.status b).kind.rank ∨
      (t.status a).kind = (t.status b).kind ∧
        ((t.candidate a).Outranks (t.candidate b) ∨
          ¬ (t.candidate b).Outranks (t.candidate a) ∧ [a, b] <+ accounts))

theorem outranks_iff_rankLt {a b : Account} :
    (t.candidate a).Outranks (t.candidate b) ↔ RankLt (t.candidate a).rankKey (t.candidate b).rankKey := by
  rw [← Candidate.compare_eq_lt_iff_outranks,
    Candidate.compare_eq_lt_iff (t.candidate_remaining_isNaN a) (t.candidate_remaining_isNaN b)]

theorem rankLe_iff_not_outranks {a b : Account} :
    t.rankLe a b = true ↔ ¬ (t.candidate b).Outranks (t.candidate a) := by
  rw [rankLe_iff, outranks_iff_rankLt]

theorem not_outranks_self (a : Account) : ¬ (t.candidate a).Outranks (t.candidate a) := by
  rw [outranks_iff_rankLt]
  exact RankLt.irrefl _

theorem status_weekly_of_unknown {a : Account} (h : (t.status a).kind = .unknown) :
    (t.status a).weekly = none := by
  unfold status at *
  split
  · rfl
  · split
    · split <;> simp_all
    · rfl

/-- Accounts of unknown status are all tied: none ranks ahead of another. -/
theorem not_outranks_of_unknown {a b : Account} (ha : (t.status a).kind = .unknown)
    (hb : (t.status b).kind = .unknown) : ¬ (t.candidate a).Outranks (t.candidate b) := by
  have hkey : (t.candidate a).rankKey = (t.candidate b).rankKey := by
    simp [Candidate.rankKey, Candidate.resetsAt, Candidate.remaining, candidate,
      status_weekly_of_unknown ha, status_weekly_of_unknown hb]
  rw [outranks_iff_rankLt, hkey]
  exact RankLt.irrefl _

/-- Two different members of a list without repeats stand in one order only. -/
theorem not_pair_sublist_swap {α : Type} {a b : α} {l : List α} (hnd : l.Nodup) (h : [a, b] <+ l) :
    ¬ [b, a] <+ l := by
  induction l with
  | nil => simp at h
  | cons c l ih =>
    intro h'
    obtain ⟨hc, hnd'⟩ := List.nodup_cons.1 hnd
    rcases List.sublist_cons_iff.1 h with hl | ⟨r, hr, hsub⟩ <;>
      rcases List.sublist_cons_iff.1 h' with hl' | ⟨r', hr', hsub'⟩
    · exact ih hnd' hl hl'
    · -- `b` would be `c` and also in `l`
      cases hr'
      exact hc (hl.subset (by simp : b ∈ [a, b]))
    · cases hr
      exact hc (hl'.subset (by simp : a ∈ [b, a]))
    · cases hr
      cases hr'
      exact hc (hsub.subset (by simp))

/-- **A stable sort keeps ties in order**: a pair in the sorted list may come in that order, and
if it may also come the other way, it came in that order. -/
theorem mergeSort_pair {l : List Account} (hnd : l.Nodup) {a b : Account}
    (h : [a, b] <+ l.mergeSort t.rankLe) : t.rankLe a b = true ∧ (t.rankLe b a = true → [a, b] <+ l) := by
  have hperm := List.mergeSort_perm l t.rankLe
  have hnds := hperm.nodup_iff.2 hnd
  refine ⟨List.pairwise_iff_forall_sublist.1 (List.pairwise_mergeSort (rankLe_trans (t := t))
    (rankLe_total (t := t)) l) h, fun hba => ?_⟩
  have hab : a ≠ b := fun e => List.nodup_iff_sublist.1 hnds a (e ▸ h)
  have ha : a ∈ l := hperm.subset (h.subset (by simp))
  have hb : b ∈ l := hperm.subset (h.subset (by simp))
  rcases pair_sublist_or ha hb hab with h' | h'
  · exact h'
  · exact absurd (List.pair_sublist_mergeSort (rankLe_trans (t := t)) (rankLe_total (t := t)) hba h')
      (not_pair_sublist_swap hnds h)

variable {accounts : List Account} {active : String}

theorem group_sublist (k : StatusKind) : t.group accounts active k <+ accounts :=
  List.filter_sublist.trans List.filter_sublist

theorem stickyAccount_ne_of_mem_group {k : StatusKind} {b : Account} (h : b ∈ t.group accounts active k) :
    t.stickyAccount accounts active ≠ some b := by
  intro hs
  exact (mem_group.1 h).2.2 (by simp [stickyEmail, hs])

theorem stickyAccount_ne_of_unknown {b : Account} (h : (t.status b).kind = .unknown) :
    t.stickyAccount accounts active ≠ some b := by
  intro hs
  rw [(mem_of_stickyAccount hs).2.2] at h
  cases h

theorem precedes_irrefl (hnd : accounts.Nodup) (a : Account) : ¬ t.Precedes accounts active a a := by
  rintro ⟨hne, hs | hlt | ⟨-, hout | ⟨-, hsub⟩⟩⟩
  · exact hne hs
  · exact Nat.lt_irrefl _ hlt
  · exact not_outranks_self a hout
  · exact List.nodup_iff_sublist.1 hnd a hsub

/-- A ranked group is in the priority order. -/
theorem precedes_of_ranked {k : StatusKind} {a b : Account} (hnd : accounts.Nodup)
    (h : [a, b] <+ (t.group accounts active k).mergeSort t.rankLe) : t.Precedes accounts active a b := by
  have hsub : t.group accounts active k <+ accounts := t.group_sublist k
  obtain ⟨hle, hstable⟩ := t.mergeSort_pair (hnd.sublist hsub) h
  have ha := mem_group.1 (List.mem_mergeSort.1 (h.subset (by simp : a ∈ [a, b])))
  have hb : b ∈ t.group accounts active k := List.mem_mergeSort.1 (h.subset (by simp : b ∈ [a, b]))
  refine ⟨stickyAccount_ne_of_mem_group hb, .inr (.inr ⟨ha.2.1.trans (mem_group.1 hb).2.1.symm, ?_⟩)⟩
  by_cases hout : (t.candidate a).Outranks (t.candidate b)
  · exact .inl hout
  · exact .inr ⟨rankLe_iff_not_outranks.1 hle, (hstable (rankLe_iff_not_outranks.2 hout)).trans hsub⟩

/-- The accounts of unknown status, as given, are in the priority order. -/
theorem precedes_of_unknown {a b : Account} (h : [a, b] <+ t.ofStatus accounts .unknown) :
    t.Precedes accounts active a b := by
  have ha := mem_ofStatus.1 (h.subset (by simp : a ∈ [a, b]))
  have hb := mem_ofStatus.1 (h.subset (by simp : b ∈ [a, b]))
  exact ⟨stickyAccount_ne_of_unknown hb.2, .inr (.inr ⟨ha.2.trans hb.2.symm,
    .inr ⟨not_outranks_of_unknown hb.2 ha.2, h.trans List.filter_sublist⟩⟩)⟩

/-- **The priority order is ordered.** -/
theorem pairwise_prioritize (hnd : accounts.Nodup) :
    (t.prioritize accounts active).Pairwise (t.Precedes accounts active) := by
  have kind_of_ranked : ∀ {k a}, a ∈ (t.group accounts active k).mergeSort t.rankLe →
      t.stickyAccount accounts active ≠ some a ∧ (t.status a).kind = k := fun h =>
    ⟨stickyAccount_ne_of_mem_group (List.mem_mergeSort.1 h), (mem_group.1 (List.mem_mergeSort.1 h)).2.1⟩
  have kind_of_unknown : ∀ {a}, a ∈ t.ofStatus accounts .unknown →
      t.stickyAccount accounts active ≠ some a ∧ (t.status a).kind = .unknown := fun h =>
    ⟨stickyAccount_ne_of_unknown (mem_ofStatus.1 h).2, (mem_ofStatus.1 h).2⟩
  -- each part is ordered, and precedes the parts after it: the sticky account by being sticky,
  -- the others by their status
  rw [prioritize_eq]
  simp only [List.pairwise_append, List.mem_append, Option.mem_toList]
  refine ⟨⟨⟨?_, ?_, ?_⟩, ?_, ?_⟩, ?_, ?_⟩
  · cases t.stickyAccount accounts active <;> simp
  · exact List.pairwise_iff_forall_sublist.2 fun h => precedes_of_ranked hnd h
  · intro a ha b hb
    exact ⟨(kind_of_ranked hb).1, .inl (Option.mem_def.1 ha)⟩
  · exact List.pairwise_iff_forall_sublist.2 fun h => precedes_of_ranked hnd h
  · rintro a (ha | ha) b hb
    · exact ⟨(kind_of_ranked hb).1, .inl (Option.mem_def.1 ha)⟩
    · exact ⟨(kind_of_ranked hb).1, .inr (.inl (by rw [(kind_of_ranked ha).2, (kind_of_ranked hb).2]; decide))⟩
  · exact List.pairwise_iff_forall_sublist.2 fun h => precedes_of_unknown h
  · rintro a ((ha | ha) | ha) b hb
    · exact ⟨(kind_of_unknown hb).1, .inl (Option.mem_def.1 ha)⟩
    all_goals exact ⟨(kind_of_unknown hb).1,
      .inr (.inl (by rw [(kind_of_ranked ha).2, (kind_of_unknown hb).2]; decide))⟩

variable (t) in
/-- **The priority order ranks what it lists.** For a list of accounts with distinct emails, the
order holds each listed account once and nothing else, the sticky account first, then the other
available accounts, the depleted ones and those of unknown status, each ranked, ties and unknown
accounts in the given order. It holds every account exactly when every account is listed: while
nothing is sticky, an account with no email and a known status is left out. -/
theorem prioritize_ranked_order (accounts : List Account) (active : String)
    (hdist : (accounts.map (·.email)).Nodup) :
    (t.prioritize accounts active).Perm (accounts.filter (t.listed accounts active)) ∧
      (t.prioritize accounts active).Pairwise (t.Precedes accounts active) ∧
      ((t.prioritize accounts active).Perm accounts ↔ ∀ a ∈ accounts, t.listed accounts active a = true) := by
  have hnd : accounts.Nodup := List.Nodup.of_map _ hdist
  have hpw : (t.prioritize accounts active).Pairwise (t.Precedes accounts active) :=
    t.pairwise_prioritize hnd
  -- no account precedes itself, so the order repeats nothing
  have hndp : (t.prioritize accounts active).Nodup := hpw.imp fun {a b} h => by
    rintro rfl
    exact t.precedes_irrefl hnd a h
  have hperm : (t.prioritize accounts active).Perm (accounts.filter (t.listed accounts active)) := by
    rw [List.perm_ext_iff_of_nodup hndp (hnd.filter _)]
    intro a
    rw [mem_prioritize hdist, List.mem_filter]
  refine ⟨hperm, hpw, fun h => ?_, fun h => ?_⟩
  · exact List.length_filter_eq_length_iff.1 (hperm.length_eq.symm.trans h.length_eq)
  · rwa [List.filter_eq_self.2 h] at hperm

/-- Two accounts, the one resetting later active: both listed, the active one first. -/
theorem prioritize_ranked_order_with_active_late :
    let soon : Account :=
      { email := "soon@x.com", ordinal := 1,
        lastSnapshot := some { weekly := { resetsAt := ⟨63872599200, 0, 0⟩, kind := .weekly, usedPercent := 50, windowMinutes := 10080 } } }
    let late : Account :=
      { email := "late@x.com", ordinal := 2,
        lastSnapshot := some { weekly := { resetsAt := ⟨63872839200, 0, 0⟩, kind := .weekly, usedPercent := 10, windowMinutes := 10080 } } }
    ([soon, late].map (·.email)).Nodup ∧
      (standard.prioritize [soon, late] "late@x.com").Perm
        ([soon, late].filter (standard.listed [soon, late] "late@x.com")) ∧
      (standard.prioritize [soon, late] "late@x.com").Pairwise (standard.Precedes [soon, late] "late@x.com") ∧
      ((standard.prioritize [soon, late] "late@x.com").Perm [soon, late] ↔
        ∀ a ∈ [soon, late], standard.listed [soon, late] "late@x.com" a = true) := by
  intro soon late
  have hdist : ([soon, late].map (·.email)).Nodup := by decide
  exact ⟨hdist, prioritize_ranked_order standard [soon, late] "late@x.com" hdist⟩

/-- **An account with no email is left out of the order.** One available account with no email
and no active email: the order is empty. -/
theorem prioritize_leaves_out_unnamed_account :
    let unnamed : Account :=
      { ordinal := 1,
        lastSnapshot := some { weekly := { resetsAt := ⟨63872599200, 0, 0⟩, kind := .weekly, usedPercent := 50, windowMinutes := 10080 } } }
    (standard.status unnamed).kind = .available ∧ standard.prioritize [unnamed] "" = [] ∧
      ¬ (standard.prioritize [unnamed] "").Perm [unnamed] := by
  intro unnamed
  -- nothing is sticky, so the group of available accounts leaves out the empty email
  have hs : standard.stickyAccount [unnamed] "" = none := rfl
  have havailable : standard.group [unnamed] "" .available = [] := rfl
  have hdepleted : standard.group [unnamed] "" .depleted = [] := rfl
  have hunknown : standard.ofStatus [unnamed] .unknown = [] := rfl
  have hnil : standard.prioritize [unnamed] "" = [] := by
    simp [prioritize_eq, hs, havailable, hdepleted, hunknown]
  refine ⟨by decide, hnil, ?_⟩
  rw [hnil]
  exact fun h => List.cons_ne_nil _ _ (List.perm_nil.1 h.symm)

/-! ### The recommendation heads the order -/

theorem mergeSort_head?_eq {l : List Account} {m : Account} (hnd : l.Nodup) (hm : t.FirstBest l m) :
    (l.mergeSort t.rankLe).head? = some m := by
  obtain ⟨m', rest, hsort, hfb⟩ := t.mergeSort_head hnd (List.ne_nil_of_mem hm.mem)
  rw [hsort, hfb.unique hm]
  rfl

/-- The first best of a status heads its ranked group, unless it has the sticky email. -/
theorem group_head?_eq {k : StatusKind} {m : Account} (hnd : accounts.Nodup)
    (hfb : t.FirstBest (t.ofStatus accounts k) m) (hmail : m.email ≠ t.stickyEmail accounts active) :
    ((t.group accounts active k).mergeSort t.rankLe).head? = some m := by
  have hmem : m ∈ t.group accounts active k :=
    mem_group.2 ⟨(mem_ofStatus.1 hfb.mem).1, (mem_ofStatus.1 hfb.mem).2, hmail⟩
  exact t.mergeSort_head?_eq (hnd.sublist (t.group_sublist k)) (hfb.sublist List.filter_sublist hmem)

/-- With nothing sticky, an account of known status is listed exactly when it has an email. -/
theorem listed_iff_of_none {a : Account} (hs : t.stickyAccount accounts active = none)
    (hk : (t.status a).kind ≠ .unknown) : t.listed accounts active a = true ↔ a.email ≠ "" := by
  simp [listed, hs, hk]

theorem stickyEmail_of_none (hs : t.stickyAccount accounts active = none) :
    t.stickyEmail accounts active = "" := by
  simp [stickyEmail, hs]

/-- With nothing sticky, the first best of a known status heads its ranked group when the order
lists it. -/
theorem group_head?_of_listed {k : StatusKind} {m : Account} (hnd : accounts.Nodup)
    (hs : t.stickyAccount accounts active = none) (hk : k ≠ .unknown)
    (hfb : t.FirstBest (t.ofStatus accounts k) m) (hl : t.listed accounts active m = true) :
    ((t.group accounts active k).mergeSort t.rankLe).head? = some m := by
  rw [← (mem_ofStatus.1 hfb.mem).2] at hk
  have hmail := (listed_iff_of_none hs hk).1 hl
  exact t.group_head?_eq hnd hfb (by rwa [stickyEmail_of_none hs])

variable (t) in
/-- **The recommendation heads the priority order when the order lists it.** For a list of
accounts with distinct emails: there is no recommendation exactly when no account has a known
status, and the reason is then no data; otherwise the recommended account heads the priority order
exactly when that order lists it, and the reason tells whether it is the sticky account, another
available account or a depleted one. -/
theorem recommend_heads_priority (accounts : List Account) (active : String)
    (hdist : (accounts.map (·.email)).Nodup) :
    ((t.recommend accounts active).recommended = none ↔ ∀ a ∈ accounts, (t.status a).kind = .unknown) ∧
      ((t.recommend accounts active).reason = .noData ↔ (t.recommend accounts active).recommended = none) ∧
      ∀ r, (t.recommend accounts active).recommended = some r →
        ((t.prioritize accounts active).head? = some r ↔ t.listed accounts active r = true) ∧
        ((t.recommend accounts active).reason = .stickiness ↔ t.stickyAccount accounts active = some r) ∧
        ((t.recommend accounts active).reason = .earliestWeeklyReset ↔
          t.stickyAccount accounts active ≠ some r ∧ (t.status r).kind = .available) ∧
        ((t.recommend accounts active).reason = .allDepleted ↔ (t.status r).kind = .depleted) := by
  have hnd : accounts.Nodup := List.Nodup.of_map _ hdist
  -- a head of the order is in it, so it is listed
  have listed_of_head : ∀ {r}, (t.prioritize accounts active).head? = some r → t.listed accounts active r = true :=
    fun h => ((mem_prioritize hdist).1 (List.mem_of_mem_head? h)).2
  rcases t.recommend_cases accounts active hnd with ⟨s, hs, hd⟩ | ⟨hs, m, hfb, hd⟩ |
    ⟨hs, hav, m, hfb, hd⟩ | ⟨hs, hav, hdep, hd⟩
  · -- the sticky account heads the order
    obtain ⟨hsmem, -, hskind⟩ := mem_of_stickyAccount hs
    rw [hd]
    refine ⟨by simpa using ⟨s, hsmem, by simp [hskind]⟩, by simp, ?_⟩
    rintro r ⟨⟩
    refine ⟨by simp [prioritize_eq, hs, listed], by simp [hs], by simp [hs], by simp [hskind]⟩
  · -- the first best available account heads the order, if it has an email
    obtain ⟨hmmem, hmkind⟩ := mem_ofStatus.1 hfb.mem
    rw [hd]
    refine ⟨by simpa using ⟨m, hmmem, by simp [hmkind]⟩, by simp, ?_⟩
    rintro r ⟨⟩
    refine ⟨⟨listed_of_head, fun hl => ?_⟩, by simp [hs], by simp [hs, hmkind], by simp [hmkind]⟩
    simp [prioritize_eq, hs, List.head?_append, t.group_head?_of_listed hnd hs (by decide) hfb hl]
  · -- nothing is available: the first best depleted account heads the order, if it has an email
    obtain ⟨hmmem, hmkind⟩ := mem_ofStatus.1 hfb.mem
    have hnil : t.group accounts active .available = [] := by simp [group, hav]
    rw [hd]
    refine ⟨by simpa using ⟨m, hmmem, by simp [hmkind]⟩, by simp, ?_⟩
    rintro r ⟨⟩
    refine ⟨⟨listed_of_head, fun hl => ?_⟩, by simp [hs], by simp [hmkind], by simp [hmkind]⟩
    simp [prioritize_eq, hs, hnil, List.head?_append, t.group_head?_of_listed hnd hs (by decide) hfb hl]
  · -- no account of known status
    have hunknown : ∀ a ∈ accounts, (t.status a).kind = .unknown := by
      intro a ha
      have h₁ : a ∉ t.ofStatus accounts .available := by simp [hav]
      have h₂ : a ∉ t.ofStatus accounts .depleted := by simp [hdep]
      rw [mem_ofStatus] at h₁ h₂
      cases hk : (t.status a).kind <;> simp_all
    rw [hd]
    exact ⟨by simpa using hunknown, by simp, by simp⟩

/-- Two accounts, the one resetting later active: the active one is kept and heads the order. -/
theorem recommend_heads_priority_with_active_late :
    let soon : Account :=
      { email := "soon@x.com", ordinal := 1,
        lastSnapshot := some { weekly := { resetsAt := ⟨63872599200, 0, 0⟩, kind := .weekly, usedPercent := 50, windowMinutes := 10080 } } }
    let late : Account :=
      { email := "late@x.com", ordinal := 2,
        lastSnapshot := some { weekly := { resetsAt := ⟨63872839200, 0, 0⟩, kind := .weekly, usedPercent := 10, windowMinutes := 10080 } } }
    ([soon, late].map (·.email)).Nodup ∧
      ((standard.recommend [soon, late] "late@x.com").recommended = none ↔
        ∀ a ∈ [soon, late], (standard.status a).kind = .unknown) ∧
      ((standard.recommend [soon, late] "late@x.com").reason = .noData ↔
        (standard.recommend [soon, late] "late@x.com").recommended = none) ∧
      ∀ r, (standard.recommend [soon, late] "late@x.com").recommended = some r →
        ((standard.prioritize [soon, late] "late@x.com").head? = some r ↔
          standard.listed [soon, late] "late@x.com" r = true) ∧
        ((standard.recommend [soon, late] "late@x.com").reason = .stickiness ↔
          standard.stickyAccount [soon, late] "late@x.com" = some r) ∧
        ((standard.recommend [soon, late] "late@x.com").reason = .earliestWeeklyReset ↔
          standard.stickyAccount [soon, late] "late@x.com" ≠ some r ∧ (standard.status r).kind = .available) ∧
        ((standard.recommend [soon, late] "late@x.com").reason = .allDepleted ↔
          (standard.status r).kind = .depleted) := by
  intro soon late
  have hdist : ([soon, late].map (·.email)).Nodup := by decide
  exact ⟨hdist, recommend_heads_priority standard [soon, late] "late@x.com" hdist⟩

/-- **The recommendation need not head the order.** With no active email, an available account
with no email that resets first is recommended, and the order starts with the other account. -/
theorem recommended_unnamed_account_not_first :
    let unnamed : Account :=
      { ordinal := 1,
        lastSnapshot := some { weekly := { resetsAt := ⟨63872599200, 0, 0⟩, kind := .weekly, usedPercent := 50, windowMinutes := 10080 } } }
    let named : Account :=
      { email := "b@x.com", ordinal := 2,
        lastSnapshot := some { weekly := { resetsAt := ⟨63872839200, 0, 0⟩, kind := .weekly, usedPercent := 10, windowMinutes := 10080 } } }
    (standard.recommend [unnamed, named] "").recommended = some unnamed ∧
      (standard.recommend [unnamed, named] "").reason = .earliestWeeklyReset ∧
      (standard.prioritize [unnamed, named] "").head? = some named := by
  intro unnamed named
  have hs : standard.stickyAccount [unnamed, named] "" = none := rfl
  have havailable : standard.group [unnamed, named] "" .available = [named] := rfl
  have hdepleted : standard.group [unnamed, named] "" .depleted = [] := rfl
  have hunknown : standard.ofStatus [unnamed, named] .unknown = [] := rfl
  refine ⟨rfl, rfl, ?_⟩
  simp [prioritize_eq, hs, havailable, hdepleted, hunknown]

end Thresholds

end QuotaWatch
