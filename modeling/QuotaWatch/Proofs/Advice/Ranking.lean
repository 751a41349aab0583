import Mathlib
import QuotaWatch.Advice.Recommend
/-!
**The ranking of accounts by their weekly windows.**

Within a group an earlier weekly reset ranks first, and at the same reset more remaining. A
remaining percentage is never NaN, so doubles that are numbers are ordered by a key of class,
exponent and mantissa, and the ranking becomes the lexicographic order of an integer key: total
and transitive, as a stable sort and a scan for the best need. The priority order and the
recommendation both find the first best member of a group, which a list without repeats has.

Main definitions:

* `Lex3`, `unpackedKey`, `doubleKey` — the order of doubles as a lexicographic order of keys;
* `Candidate.rankKey`, `RankLt` — a candidate's key, and the order of keys;
* `Thresholds.candidate`, `Thresholds.rankLe` — an account's candidate, and the ranking as the
  stable sort compares;
* `Thresholds.FirstBest` — the first member of a list that no member ranks strictly ahead of.

Main results:

* `double_lt_iff_key`, `Percent.less_iff_key` — doubles that are numbers are ordered by their
  keys;
* `Candidate.compare_eq_lt_iff`, `Candidate.compare_eq_gt_iff` — a candidate ranks ahead exactly
  when its key does;
* `Thresholds.rankLe_trans`, `Thresholds.rankLe_total` — the ranking is a total preorder;
* `Thresholds.mergeSort_head` — a stable sort puts the first best first;
* `Thresholds.firstBest_eq` — the scan for the first best finds it.
-/

namespace QuotaWatch

open Float.Model UnpackedFloat
open scoped List

/-! ### The order of doubles -/

/-- The lexicographic order of triples of integers. -/
def Lex3 (a b : Int × Int × Int) : Prop :=
  a.1 < b.1 ∨ a.1 = b.1 ∧ (a.2.1 < b.2.1 ∨ a.2.1 = b.2.1 ∧ a.2.2 < b.2.2)

/-- Where an unpacked double stands: its class (negative infinity, negative, zero, positive,
positive infinity), then its exponent and mantissa, read backwards for negatives. NaN, which
stands nowhere, is put with zero. -/
def unpackedKey : UnpackedFloat → Int × Int × Int
  | .infinity .negative => (0, 0, 0)
  | .finite .negative m e _ => (1, -e, -(m : Int))
  | .zero _ => (2, 0, 0)
  | .notANumber => (2, 0, 0)
  | .finite .positive m e _ => (3, e, m)
  | .infinity .positive => (4, 0, 0)

/-- Of two unpacked doubles that are numbers, the first is below the second exactly when its key
is. -/
theorem unpacked_lt_iff {a b : UnpackedFloat} (ha : a.isNaN = false) (hb : b.isNaN = false) :
    a.lt b = true ↔ Lex3 (unpackedKey a) (unpackedKey b) := by
  cases a with
  | notANumber => simp [UnpackedFloat.isNaN] at ha
  | infinity s =>
    cases b with
    | notANumber => simp [UnpackedFloat.isNaN] at hb
    | infinity t | zero t | finite t _ _ _ =>
      cases s <;> cases t <;> simp [UnpackedFloat.lt, UnpackedFloat.compare, unpackedKey, Lex3, compare]
  | zero s =>
    cases b with
    | notANumber => simp [UnpackedFloat.isNaN] at hb
    | infinity t | zero t | finite t _ _ _ =>
      cases s <;> cases t <;> simp [UnpackedFloat.lt, UnpackedFloat.compare, unpackedKey, Lex3]
  | finite s m e h =>
    cases b with
    | notANumber => simp [UnpackedFloat.isNaN] at hb
    | infinity t | zero t =>
      cases s <;> cases t <;> simp [UnpackedFloat.lt, UnpackedFloat.compare, unpackedKey, Lex3]
    | finite t m' e' h' =>
      -- both finite: exponents first, then mantissas, the other way round below zero
      cases s <;> cases t <;>
        simp [UnpackedFloat.lt, UnpackedFloat.compare, unpackedKey, Lex3, Ordering.then_eq_lt,
          Ordering.then_eq_gt, Int.compare_eq_lt, Int.compare_eq_gt, Nat.compare_eq_lt, Nat.compare_eq_gt]

/-- The key of a double in the order of doubles. -/
def doubleKey (x : Float) : Int × Int × Int := unpackedKey x.toModel.unpack

/-- **Doubles that are numbers are ordered by their keys.** -/
theorem double_lt_iff_key {x y : Float} (hx : x.isNaN = false) (hy : y.isNaN = false) :
    x < y ↔ Lex3 (doubleKey x) (doubleKey y) := by
  show Float.lt x y = true ↔ _
  simp only [Float.lt, decide_eq_true_eq]
  exact unpacked_lt_iff hx hy

namespace Percent

theorem less_iff_key {p q : Percent} (hp : p.value.isNaN = false) (hq : q.value.isNaN = false) :
    p.less q = true ↔ Lex3 (doubleKey p.value) (doubleKey q.value) := by
  rw [less, decide_eq_true_eq]
  exact double_lt_iff_key hp hq

/-- A percentage is a number. -/
theorem make_isNaN {v : Float} {p : Percent} (h : make v = .ok p) : p.value.isNaN = false := by
  unfold make at h
  split at h
  · cases h
  · split at h
    · cases h
    · rename_i hv _
      cases h
      simp only [Bool.or_eq_true, not_or, Bool.not_eq_true] at hv
      exact hv.1

theorem make?_isNaN {v : Float} {p : Percent} (h : make? v = some p) : p.value.isNaN = false := by
  unfold make? at h
  split at h
  · rename_i hp
    cases h
    exact make_isNaN hp
  · cases h

end Percent

/-! ### The ranking of candidates -/

/-- The ranking key of a candidate: its weekly reset as seconds and nanoseconds, then the key of
its weekly remaining. -/
def Candidate.rankKey (c : Candidate) : (Int × Int) × (Int × Int × Int) :=
  ((c.resetsAt.sec, c.resetsAt.nsec), doubleKey c.remaining.value)

/-- Strictly ahead in the ranking, by key: an earlier reset, or the same reset and more
remaining. -/
def RankLt (x y : (Int × Int) × (Int × Int × Int)) : Prop :=
  x.1.1 < y.1.1 ∨ x.1.1 = y.1.1 ∧ (x.1.2 < y.1.2 ∨ x.1.2 = y.1.2 ∧ Lex3 y.2 x.2)

namespace RankLt

variable {x y z : (Int × Int) × (Int × Int × Int)}

theorem irrefl (x : (Int × Int) × (Int × Int × Int)) : ¬ RankLt x x := by
  simp only [RankLt, Lex3]
  omega

theorem trans (h₁ : RankLt x y) (h₂ : RankLt y z) : RankLt x z := by
  simp only [RankLt, Lex3] at *
  omega

/-- Strictly ahead of one key, and that key no further ahead than a third: strictly ahead of the
third. -/
theorem trans_not (h₁ : RankLt x y) (h₂ : ¬ RankLt z y) : RankLt x z := by
  simp only [RankLt, Lex3] at *
  omega

theorem not_trans (h₁ : ¬ RankLt y x) (h₂ : ¬ RankLt z y) : ¬ RankLt z x := by
  simp only [RankLt, Lex3] at *
  omega

theorem not_or_not (x y : (Int × Int) × (Int × Int × Int)) : ¬ RankLt x y ∨ ¬ RankLt y x := by
  simp only [RankLt, Lex3]
  omega

end RankLt

namespace Candidate

theorem before_iff (t u : Instant) : t.before u = true ↔ t.sec < u.sec ∨ t.sec = u.sec ∧ t.nsec < u.nsec := by
  simp [Instant.before]

/-- **A candidate ranks ahead exactly when its key does**, for candidates whose remaining is a
number. -/
theorem compare_eq_lt_iff {a b : Candidate} (ha : a.remaining.value.isNaN = false)
    (hb : b.remaining.value.isNaN = false) : a.compare b = .lt ↔ RankLt a.rankKey b.rankKey := by
  have hab := Percent.less_iff_key ha hb
  have hba := Percent.less_iff_key hb ha
  have h₁ := before_iff a.resetsAt b.resetsAt
  have h₂ := before_iff b.resetsAt a.resetsAt
  simp only [compare, rankKey, RankLt]
  split_ifs <;> simp_all [Lex3] <;> omega

theorem compare_eq_gt_iff {a b : Candidate} (ha : a.remaining.value.isNaN = false)
    (hb : b.remaining.value.isNaN = false) : a.compare b = .gt ↔ RankLt b.rankKey a.rankKey := by
  have hab := Percent.less_iff_key ha hb
  have hba := Percent.less_iff_key hb ha
  have h₁ := before_iff a.resetsAt b.resetsAt
  have h₂ := before_iff b.resetsAt a.resetsAt
  simp only [compare, rankKey, RankLt]
  split_ifs <;> simp_all [Lex3] <;> omega

end Candidate

/-! ### Ranking accounts -/

/-- Of two different members of a list, one comes before the other. -/
theorem pair_sublist_or {α : Type} {a b : α} {l : List α} (ha : a ∈ l) (hb : b ∈ l) (hab : a ≠ b) :
    [a, b] <+ l ∨ [b, a] <+ l := by
  induction l with
  | nil => simp at ha
  | cons c l ih =>
    rcases List.mem_cons.1 ha with rfl | ha'
    · have hb' : b ∈ l := (List.mem_cons.1 hb).resolve_left (Ne.symm hab)
      exact .inl ((List.singleton_sublist.2 hb').cons_cons a)
    · rcases List.mem_cons.1 hb with rfl | hb'
      · exact .inr ((List.singleton_sublist.2 ha').cons_cons b)
      · rcases ih ha' hb' with h | h
        · exact .inl (h.cons c)
        · exact .inr (h.cons c)

/-- A pair before the last member of `l ++ [x]` that does not end at `x` lies in `l`. -/
theorem pair_sublist_of_append_singleton {α : Type} {y b x : α} {l : List α} (h : [y, b] <+ l ++ [x])
    (hb : b ≠ x) : [y, b] <+ l := by
  obtain ⟨l₁, l₂, heq, h₁, h₂⟩ := List.sublist_append_iff.1 h
  rcases List.sublist_singleton.1 h₂ with rfl | rfl
  · rw [heq, List.append_nil]
    exact h₁
  · -- the pair would end at `x`
    have hlast := congrArg List.getLast? heq
    simp at hlast
    exact absurd hlast hb

namespace Thresholds

variable (t : Thresholds)

/-- An account with its status. -/
def candidate (a : Account) : Candidate := ⟨a, t.status a⟩

theorem candidates_eq (accounts : List Account) : t.candidates accounts = accounts.map t.candidate := rfl

@[simp] theorem candidate_account (a : Account) : (t.candidate a).account = a := rfl

theorem remainingFromUsed_isNaN {u : Float} {p : Percent} (h : Percent.remainingFromUsed u = some p) :
    p.value.isNaN = false := by
  unfold Percent.remainingFromUsed at h
  split at h
  · exact Percent.make?_isNaN h
  · cases h

/-- The weekly remaining of every account's candidate is a number: a percentage, or zero. -/
theorem candidate_remaining_isNaN (a : Account) : (t.candidate a).remaining.value.isNaN = false := by
  simp only [candidate, Candidate.remaining, status]
  split
  · decide
  · split
    · split <;> exact remainingFromUsed_isNaN ‹_›
    · decide

/-- Whether `a` may come before `b` in the ranking: `b` does not rank strictly ahead of `a`. -/
def rankLe (a b : Account) : Bool := (t.candidate a).compare (t.candidate b) != .gt

variable {t}

theorem rankLe_iff {a b : Account} :
    t.rankLe a b = true ↔ ¬ RankLt (t.candidate b).rankKey (t.candidate a).rankKey := by
  rw [rankLe, bne_iff_ne, ne_eq,
    Candidate.compare_eq_gt_iff (t.candidate_remaining_isNaN a) (t.candidate_remaining_isNaN b)]

theorem ranksAhead_iff {a b : Account} :
    (t.candidate a).ranksAhead (t.candidate b) = true ↔ RankLt (t.candidate a).rankKey (t.candidate b).rankKey := by
  rw [Candidate.ranksAhead, beq_iff_eq,
    Candidate.compare_eq_lt_iff (t.candidate_remaining_isNaN a) (t.candidate_remaining_isNaN b)]

theorem rankLe_refl (a : Account) : t.rankLe a a = true := rankLe_iff.2 (RankLt.irrefl _)

theorem rankLe_trans (a b c : Account) (h₁ : t.rankLe a b = true) (h₂ : t.rankLe b c = true) :
    t.rankLe a c = true :=
  rankLe_iff.2 (RankLt.not_trans (rankLe_iff.1 h₁) (rankLe_iff.1 h₂))

theorem rankLe_total (a b : Account) : (t.rankLe a b || t.rankLe b a) = true := by
  rw [Bool.or_eq_true, rankLe_iff, rankLe_iff]
  exact (RankLt.not_or_not _ _).symm

/-- **The first best of a list**: a member that no member ranks strictly ahead of, and that ranks
strictly ahead of every member before it. -/
structure FirstBest (t : Thresholds) (l : List Account) (m : Account) : Prop where
  mem : m ∈ l
  le : ∀ x ∈ l, t.rankLe m x = true
  before : ∀ x, [x, m] <+ l → x ≠ m → t.rankLe x m = false

/-- A list without repeats has one first best. -/
theorem FirstBest.unique {l : List Account} {m m' : Account} (h : t.FirstBest l m) (h' : t.FirstBest l m') :
    m = m' := by
  by_contra hne
  rcases pair_sublist_or h.mem h'.mem hne with hp | hp
  · exact absurd (h.le m' h'.mem) (by rw [h'.before m hp hne]; simp)
  · exact absurd (h'.le m h.mem) (by rw [h.before m' hp (Ne.symm hne)]; simp)

/-- The first best of a list is the first best of every part of it that holds it. -/
theorem FirstBest.sublist {l l' : List Account} {m : Account} (h : t.FirstBest l m) (hsub : l' <+ l)
    (hm : m ∈ l') : t.FirstBest l' m :=
  ⟨hm, fun x hx => h.le x (hsub.subset hx), fun x hx hne => h.before x (hx.trans hsub) hne⟩

/-- **A stable sort puts the first best first.** -/
theorem mergeSort_head {l : List Account} (hnd : l.Nodup) (hne : l ≠ []) :
    ∃ m rest, l.mergeSort t.rankLe = m :: rest ∧ t.FirstBest l m := by
  have hperm := List.mergeSort_perm l t.rankLe
  have hsorted := List.pairwise_mergeSort (rankLe_trans (t := t)) (rankLe_total (t := t)) l
  have hnds := hperm.nodup_iff.2 hnd
  cases heq : l.mergeSort t.rankLe with
  | nil =>
    rw [heq] at hperm
    exact absurd (List.perm_nil.1 hperm.symm) hne
  | cons m rest =>
  rw [heq] at hperm hsorted hnds
  refine ⟨m, rest, rfl, ⟨hperm.subset List.mem_cons_self, fun x hx => ?_, fun x hx hxm => ?_⟩⟩
  · rcases List.mem_cons.1 (hperm.symm.subset hx) with rfl | hx'
    · exact rankLe_refl x
    · exact List.rel_of_pairwise_cons hsorted hx'
  · -- a member before `m` that `m` does not rank strictly ahead of would stay before it
    by_contra hle
    have hp := List.pair_sublist_mergeSort (rankLe_trans (t := t)) (rankLe_total (t := t))
      (Bool.not_eq_false _ ▸ hle) hx
    rw [heq] at hp
    have hm : m ∈ rest := by
      rcases List.sublist_cons_iff.1 hp with h | ⟨r, hr, -⟩
      · exact h.subset (by simp)
      · cases hr
        exact absurd rfl hxm
    exact (List.nodup_cons.1 hnds).1 hm

/-- A one-member list has its member first best. -/
theorem firstBest_singleton (c : Account) : t.FirstBest [c] c := by
  refine ⟨List.mem_singleton_self c, fun x hx => ?_, fun x hx _ => ?_⟩
  · rw [List.mem_singleton.1 hx]
    exact rankLe_refl c
  · exact absurd hx.length_le (by simp)

/-- **One step of the scan for the first best**: a new member that ranks strictly ahead of the
best so far takes its place, and otherwise the best so far stays. -/
theorem FirstBest.snoc {pre : List Account} {best x : Account} (h : t.FirstBest pre best)
    (hnd : (pre ++ [x]).Nodup) :
    t.FirstBest (pre ++ [x]) (if (t.candidate x).ranksAhead (t.candidate best) then x else best) := by
  have hx : x ∉ pre := fun hx => (List.nodup_append.1 hnd).2.2 x hx x (List.mem_singleton_self x) rfl
  split_ifs with hahead
  · have hR := ranksAhead_iff.1 hahead
    refine ⟨List.mem_append_right _ (List.mem_singleton_self x), fun y hy => ?_, fun y hy hyx => ?_⟩
    · rcases List.mem_append.1 hy with hy | hy
      · -- the best so far ranks no lower than `y`, and `x` strictly above it
        exact rankLe_iff.2 fun hyx => rankLe_iff.1 (h.le y hy) (hyx.trans hR)
      · rw [List.mem_singleton.1 hy]
        exact rankLe_refl x
    · have hy' : y ∈ pre := by
        rcases List.mem_append.1 (hy.subset (List.mem_cons_self)) with hy' | hy'
        · exact hy'
        · exact absurd (List.mem_singleton.1 hy') hyx
      rw [Bool.eq_false_iff]
      intro hle
      exact rankLe_iff.1 hle (hR.trans_not (rankLe_iff.1 (h.le y hy')))
  · refine ⟨List.mem_append_left _ h.mem, fun y hy => ?_, fun y hy hyb => ?_⟩
    · rcases List.mem_append.1 hy with hy | hy
      · exact h.le y hy
      · rw [List.mem_singleton.1 hy]
        exact rankLe_iff.2 fun hR => hahead (ranksAhead_iff.2 hR)
    · have hbx : best ≠ x := fun hb => hx (hb ▸ h.mem)
      exact h.before y (pair_sublist_of_append_singleton hy hbx) hyb

/-- Scanning on from a first best, over members that repeat nothing, ends at the first best of
all. -/
theorem foldl_firstBest {pre xs : List Account} {best : Account} (h : t.FirstBest pre best)
    (hnd : (pre ++ xs).Nodup) :
    ∃ m, (xs.map t.candidate).foldl (fun b x => if x.ranksAhead b then x else b) (t.candidate best) =
      t.candidate m ∧ t.FirstBest (pre ++ xs) m := by
  induction xs generalizing pre best with
  | nil => exact ⟨best, rfl, by simpa using h⟩
  | cons x xs ih =>
    have hnd' : (pre ++ [x]).Nodup := hnd.sublist (by simp)
    obtain ⟨m, hm, hfb⟩ := ih (h.snoc hnd') (by simpa using hnd)
    refine ⟨m, ?_, by simpa using hfb⟩
    rw [List.map_cons, List.foldl_cons, ← hm]
    congr 1
    split_ifs <;> rfl

/-- **The scan for the first best finds it.** -/
theorem firstBest_eq (c : Account) (rest : List Account) (hnd : (c :: rest).Nodup) :
    ∃ m, firstBest (t.candidate c) (rest.map t.candidate) = t.candidate m ∧ t.FirstBest (c :: rest) m :=
  foldl_firstBest (firstBest_singleton c) hnd

end Thresholds

end QuotaWatch
